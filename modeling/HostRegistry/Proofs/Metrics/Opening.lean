import HostRegistry.Proofs.Metrics.Samples
import HostRegistry.Proofs.Repository.LifeCycle
import HostRegistry.Service.Startup

/-!
# Metrics of a registry that was just opened

Opening a registry notes no sizes, and the first look at the file does so only if it publishes. So
the gauges are absent until something is done, however much was loaded, except where the load found
no file because the way to it was not there yet.
-/

namespace HostRegistry

variable {σ ι : Type}

namespace Store

/-! ## What a load notes -/

theorem journal_of_fetch {st : Store ι} (h : ∀ e ∈ st.journal, e.isOfRepository = true) :
    ∀ e ∈ st.fetch.2.journal, e.isOfRepository = true := by
  unfold fetch
  split
  · exact h
  · exact List.forall_mem_append.2 ⟨h, List.forall_mem_singleton.2 rfl⟩

theorem journal_of_stopWatching {st : Store ι} (h : ∀ e ∈ st.journal, e.isOfRepository = true)
    (next : WatchState ι) : ∀ e ∈ (st.stopWatching next).journal, e.isOfRepository = true := by
  unfold stopWatching
  split
  · exact List.forall_mem_append.2 ⟨h, List.forall_mem_singleton.2 rfl⟩
  · exact h

theorem journal_of_watchDirectory {st : Store ι} (h : ∀ e ∈ st.journal, e.isOfRepository = true)
    (name : ι) : ∀ e ∈ (st.watchDirectory name).2.journal, e.isOfRepository = true := by
  unfold watchDirectory
  split
  · exact h
  · exact List.forall_mem_append.2 ⟨h, List.forall_mem_singleton.2 rfl⟩

theorem journal_of_startWatching {st : Store ι} (h : ∀ e ∈ st.journal, e.isOfRepository = true)
    (name : ι) : ∀ e ∈ (st.startWatching name).2.journal, e.isOfRepository = true := by
  unfold startWatching
  split
  · exact h
  · simp only
    generalize st.files.makeDirectories st.repository.settings.dir = made
    obtain ⟨outcome, files⟩ := made
    cases outcome with
    | error e => exact h
    | ok _ =>
      have hmade : ∀ e ∈ { st with files }.journal, e.isOfRepository = true := h
      have hstopped := journal_of_stopWatching hmade .idle
      simp only
      exact journal_of_watchDirectory hstopped name

/-- Loading notes what a repository does, and no sizes. -/
theorem journal_of_load {st : Store ι} (h : ∀ e ∈ st.journal, e.isOfRepository = true)
    (name : ι) : ∀ e ∈ (st.load name).2.journal, e.isOfRepository = true := by
  have hfetched := journal_of_fetch h
  unfold load
  generalize st.fetch = fetched at hfetched ⊢
  obtain ⟨outcome, fetched⟩ := fetched
  cases outcome with
  | error e => exact hfetched
  | ok contents =>
    have hwatched := journal_of_startWatching hfetched name
    simp only
    split
    · generalize fetched.startWatching name = watched at hwatched ⊢
      obtain ⟨outcome, watched⟩ := watched
      cases outcome <;> exact hwatched
    · exact hfetched

/-! ## The first look -/

/-- After a load that watches, the file is due to be looked at. -/
theorem settle_of_load {st st' : Store ι} {name : ι} {contents : Snapshot}
    (henabled : st.repository.settings.watcherEnabled = true)
    (hopen : st.repository.watch ≠ .closed) (h : st.load name = (.ok contents, st')) :
    st'.settle.1 = some name := by
  obtain ⟨_, _, _, -, -, -, -, hfollowed⟩ := load_eq_ok henabled hopen h
  simp [settle, hfollowed, Repository.followedBy, Debounce.State.after, Debounce.State.step]

/-- A file with contents that are not remembered after a load that watches was not there for it. -/
theorem missing_of_found {st st' : Store ι} {name : ι} {contents found : Snapshot}
    (henabled : st.repository.settings.watcherEnabled = true)
    (hopen : st.repository.watch ≠ .closed) (h : st.load name = (.ok contents, st'))
    (hfound : st'.files.readSnapshot st'.repository.path = .ok (some found))
    (hnew : st'.repository.synced ≠ some found) :
    st.files.readSnapshot st.repository.path = .ok none := by
  obtain ⟨stored, _, _, hread, -⟩ := load_eq_ok henabled hopen h
  cases stored with
  | none => exact hread
  | some known =>
    have hcalm : st'.Calm := calm_of_load henabled hopen h fun hnone => by
      cases hread.symm.trans hnone
    exact (hnew (hcalm.remembered hfound)).elim

/-- What is served, and the store with it, once the registry that follows the file has taken its
first look; without one nothing is looked at. -/
def firstLook (depth : Nat) (st : Store ι) (w : Session σ) : Option (Session σ) × Store ι :=
  match st.settle with
  | (none, st) => (some w, st)
  | (some _, st) => st.refresh depth w

theorem firstLook_of_idle {st : Store ι} (h : st.repository.watch = .idle) (depth : Nat)
    (w : Session σ) : st.firstLook depth w = (some w, st) := by
  unfold firstLook settle
  rw [h]

theorem firstLook_of_load {st st' : Store ι} {name : ι} {contents : Snapshot}
    (henabled : st.repository.settings.watcherEnabled = true)
    (hopen : st.repository.watch ≠ .closed) (h : st.load name = (.ok contents, st')) (depth : Nat)
    (w : Session σ) :
    ∃ watch, st'.firstLook depth w = (st'.setWatch watch).refresh depth w := by
  obtain ⟨watch, hsettled⟩ := st'.settle_snd
  have hsettle : st'.settle = (some name, st'.setWatch watch) :=
    Prod.ext (settle_of_load henabled hopen h) hsettled
  exact ⟨watch, by rw [firstLook, hsettle]⟩

end Store

/-- The only listener of a registry that was just opened announces what was published. -/
theorem Session.notify_opened {contents : Snapshot} {w : Session σ}
    (h : w.registry = (Registry.ofSnapshot contents).attach reloadLogger) (depth : Nat) :
    w.notify (depth + 1) =
      some (((w.note (.notifying [1])).note (.called 1 contents)).note (.serving contents)) := by
  obtain ⟨registry, memory, journal⟩ := w
  cases h
  rfl

open Store

/-- A look for a registry that was just opened announces contents that are neither remembered nor
live; otherwise no sizes are noted. -/
theorem refresh_opened {st : Store ι} (hstore : ∀ e ∈ st.journal, e.isOfRepository = true)
    {contents : Snapshot} {w : Session σ} (hfresh : w.journal = [])
    (hopened : w.registry = (Registry.ofSnapshot contents).attach reloadLogger) (depth : Nat) :
    ∃ w' st', st.refresh (depth + 1) w = (some w', st') ∧
      (∀ e ∈ st'.journal, e.isOfRepository = true) ∧
      ((∃ found, st.files.readSnapshot st.repository.path = .ok (some found) ∧
          st.repository.synced ≠ some found ∧ contents ≠ found ∧ w'.contents = found ∧
          Metrics.gauges w'.journal = some found.sizes) ∨
        (∀ found, st.files.readSnapshot st.repository.path = .ok (some found) →
          st.repository.synced = some found ∨ contents = found) ∧ w' = w) := by
  have hcontents : w.contents = contents := congrArg Registry.contents hopened
  unfold refresh
  rcases st.publishIfChanged_cases w with
    ⟨found, hfound, hnew, hother, hpublish⟩ | ⟨found, hfound, hlive, hpublish⟩ |
      ⟨hknown, hpublish | hpublish⟩
  · have hpublished : (w.publish found).registry =
        (Registry.ofSnapshot found).attach reloadLogger := by
      show { w.registry with contents := found } = _
      rw [hopened]
      rfl
    have hserved := Session.notify_opened hpublished depth
    rw [hpublish]
    refine ⟨_, _, Prod.ext hserved rfl, hstore, .inl ?_⟩
    refine ⟨found, hfound, hnew, fun h => hother (hcontents.trans h), rfl, ?_⟩
    show Metrics.gauges (((w.journal ++ [_]) ++ [_]) ++ [_] ++ [_]) = _
    rw [hfresh]
    rfl
  · rw [hpublish]
    refine ⟨_, _, rfl, hstore, .inr ⟨fun found' hfound' => .inr ?_, rfl⟩⟩
    cases hfound.symm.trans hfound'
    exact hcontents.symm.trans hlive
  · rw [hpublish]
    exact ⟨_, _, rfl, hstore, .inr ⟨fun found hfound => .inl (hknown found hfound), rfl⟩⟩
  · rw [hpublish]
    refine ⟨_, _, rfl, ?_, .inr ⟨fun found hfound => .inl (hknown found hfound), rfl⟩⟩
    exact List.forall_mem_append.2 ⟨hstore, List.forall_mem_singleton.2 rfl⟩

/-- What an opened registry is, and what it noted. -/
theorem of_openRegistry {settings : RepositorySettings} {files : FileTree}
    {device : FileTree.Device} {name : ι} {memory : σ} {w : Session σ} {st : Store ι}
    (hopened : openRegistry ⟨.new settings, files, device, []⟩ name memory = (.ok w, st)) :
    ∃ contents, Store.load ⟨.new settings, files, device, []⟩ name = (.ok contents, st) ∧
      w.registry = (Registry.ofSnapshot contents).attach reloadLogger ∧ w.journal = [] ∧
      ∀ e ∈ st.journal, e.isOfRepository = true := by
  have hnew : ∀ e ∈ (⟨.new settings, files, device, []⟩ : Store ι).journal,
      e.isOfRepository = true := fun e he => (List.not_mem_nil he).elim
  have hjournal := journal_of_load hnew name
  unfold openRegistry at hopened
  generalize Store.load ⟨.new settings, files, device, []⟩ name = loaded at hopened hjournal ⊢
  obtain ⟨outcome, st'⟩ := loaded
  cases outcome with
  | error e => cases hopened
  | ok contents =>
    cases hopened
    exact ⟨contents, rfl, rfl, rfl, hjournal⟩

/-- The first look after a load that watches announces contents if the load found no file and now
there is one with other contents than none; otherwise no sizes are noted. -/
theorem firstLook_opened {settings : RepositorySettings} {files : FileTree}
    {device : FileTree.Device} {name : ι} {contents : Snapshot} {w : Session σ} {st : Store ι}
    (henabled : settings.watcherEnabled = true)
    (hload : Store.load ⟨.new settings, files, device, []⟩ name = (.ok contents, st))
    (hopened : w.registry = (Registry.ofSnapshot contents).attach reloadLogger)
    (hfresh : w.journal = []) (hjournal : ∀ e ∈ st.journal, e.isOfRepository = true)
    (depth : Nat) :
    ∃ w' st', firstLook (depth + 1) st w = (some w', st') ∧
      (∀ e ∈ st'.journal, e.isOfRepository = true) ∧
      ((files.readSnapshot settings.filePath = .ok none ∧
          (∃ found, found ≠ .empty ∧ st.files.readSnapshot settings.filePath = .ok (some found)) ∧
          Metrics.gauges w'.journal = some w'.contents.sizes) ∨
        (files.readSnapshot settings.filePath = .ok none → ∀ found,
          st.files.readSnapshot settings.filePath = .ok (some found) → found = .empty) ∧
          w' = w) := by
  have hopen : (Repository.new settings : Repository ι).watch ≠ .closed := by
    intro hclosed
    cases hclosed
  obtain ⟨stored, _, _, hread, hcontents, -, -, hfollowed⟩ := load_eq_ok henabled hopen hload
  have hpath : st.repository.path = settings.filePath := by
    rw [hfollowed]
    rfl
  have hsynced : st.repository.synced = stored := by
    rw [hfollowed]
    rfl
  obtain ⟨watch, hlook⟩ := firstLook_of_load henabled hopen hload (depth + 1) w
  have hnoted : ∀ e ∈ (st.setWatch watch).journal, e.isOfRepository = true := hjournal
  obtain ⟨w', st', hrefresh, hnoted', hcases⟩ := refresh_opened hnoted hfresh hopened depth
  refine ⟨w', st', hlook.trans hrefresh, hnoted', ?_⟩
  rw [← hpath]
  rcases hcases with ⟨found, hfound, hnew, hother, hlive, hsizes⟩ | ⟨hknown, rfl⟩
  · have hnone := missing_of_found henabled hopen hload hfound hnew
    have hempty : contents = .empty := by
      cases hread.symm.trans hnone
      exact hcontents
    rw [hlive]
    exact .inl ⟨hpath ▸ hnone, ⟨found, hempty ▸ hother.symm, hfound⟩, hsizes⟩
  · refine .inr ⟨fun hnone found hfound => ?_, rfl⟩
    rw [hpath] at hnone
    cases hread.symm.trans hnone
    rcases hknown found hfound with hremembered | hlive
    · cases hsynced.symm.trans hremembered
    · exact hlive.symm.trans hcontents

/-- When a registry has been opened from its file, its gauges are absent. The first look of the
watch makes them the sizes of the contents if and only if no file was found and, when the directory
was made for the watch, one with other contents came into sight; otherwise they stay absent, and so
the contents that were loaded are not described. -/
theorem gauges_of_openRegistry {settings : RepositorySettings} {files : FileTree}
    {device : FileTree.Device} {name : ι} {memory : σ} {w : Session σ} {st : Store ι}
    (hopened : openRegistry ⟨.new settings, files, device, []⟩ name memory = (.ok w, st))
    (depth : Nat) :
    (∀ journal, Interleaves w.journal st.journal journal → Metrics.gauges journal = none) ∧
    ∃ w' st', firstLook (depth + 1) st w = (some w', st') ∧
      ∀ journal, Interleaves w'.journal st'.journal journal →
        (Metrics.gauges journal = some w'.contents.sizes ↔
          settings.watcherEnabled = true ∧ files.readSnapshot settings.filePath = .ok none ∧
            ∃ contents, contents ≠ .empty ∧
              st.files.readSnapshot settings.filePath = .ok (some contents)) ∧
        (Metrics.gauges journal = some w'.contents.sizes ∨
          Metrics.gauges journal = none ∧ w'.contents = w.contents) := by
  obtain ⟨contents, hload, hregistry, hfresh, hjournal⟩ := of_openRegistry hopened
  have hunnoted (journal : List Event) (h : Interleaves w.journal st.journal journal) :
      Metrics.gauges journal = none := by
    rw [(h.samples hjournal).1, hfresh]
    rfl
  refine ⟨hunnoted, ?_⟩
  cases henabled : settings.watcherEnabled with
  | false =>
    have hidle : st.repository.watch = .idle := by
      obtain ⟨-, hwatch | hwatch⟩ := watch_of_load_ok hload
      · cases henabled.symm.trans hwatch.1.1
      · exact hwatch.2
    refine ⟨w, st, firstLook_of_idle hidle _ _, fun journal h => ?_⟩
    rw [hunnoted journal h]
    refine ⟨iff_of_false (Option.some_ne_none _).symm ?_, .inr ⟨rfl, rfl⟩⟩
    intro hwatched
    cases hwatched.1
  | true =>
    obtain ⟨w', st', hlook, hnoted, hcases⟩ :=
      firstLook_opened henabled hload hregistry hfresh hjournal depth
    refine ⟨w', st', hlook, fun journal h => ?_⟩
    rw [(h.samples hnoted).1]
    rcases hcases with ⟨hmissing, hfound, hsizes⟩ | ⟨hempty, rfl⟩
    · rw [hsizes]
      exact ⟨iff_of_true rfl ⟨rfl, hmissing, hfound⟩, .inl rfl⟩
    · rw [hfresh]
      refine ⟨iff_of_false (Option.some_ne_none _).symm ?_, .inr ⟨rfl, rfl⟩⟩
      rintro ⟨-, hmissing, found, hother, hfound⟩
      exact hother (hempty hmissing found hfound)

theorem openRegistry_of_load {st : Store ι} {name : ι} {contents : Snapshot}
    (h : (st.load name).1 = .ok contents) (memory : σ) :
    openRegistry st name memory =
      (.ok ⟨(Registry.ofSnapshot contents).attach reloadLogger, memory, []⟩, (st.load name).2) := by
  unfold openRegistry
  generalize st.load name = loaded at h ⊢
  obtain ⟨outcome, st'⟩ := loaded
  cases h
  rfl

/-- A registry in which one host is listed for one container. -/
def listsC : Snapshot := Snapshot.built [.change (.addContainerHost "c" "http://h")]

theorem gauges_lateFile :
    ∃ w st w' st' journal, openRegistry Following.lateFile () () = (.ok w, st) ∧
      firstLook 1 st w = (some w', st') ∧ Interleaves w'.journal st'.journal journal ∧
      Metrics.gauges journal = some w'.contents.sizes := by
  have hload : (Following.lateFile.load ()).1 = .ok .empty := by decide +kernel
  have hmissing : Following.lateFile.files.readSnapshot
      Following.lateFile.repository.settings.filePath = .ok none := by
    decide +kernel
  have hfound : (Following.lateFile.load ()).2.files.readSnapshot
      Following.lateFile.repository.settings.filePath = .ok (some listsC) := by
    decide +kernel
  have hopened := openRegistry_of_load hload ()
  obtain ⟨-, w', st', hlook, hgauges⟩ := gauges_of_openRegistry hopened 0
  have hjournal := Following.interleaves_append w'.journal st'.journal
  exact ⟨_, _, w', st', _, hopened, hlook, hjournal,
    (hgauges _ hjournal).1.2 ⟨rfl, hmissing, listsC, by decide +kernel, hfound⟩⟩

/-- A repository in the working directory whose file lists one container. -/
def fullFile : Store Unit :=
  ⟨.new { fileName := "f.json", watcherEnabled := true },
    FileTree.empty.set ["work", "f.json"] (.file (Record.ofSnapshot listsC).toBytes),
    FileTree.soundDevice, []⟩

/-- One container with one host is served, but no gauge tells of it, even after the first look. -/
theorem no_gauges_fullFile :
    ∃ w st w' st' journal, openRegistry fullFile () () = (.ok w, st) ∧
      w.contents.sizes = ⟨1, 0, 1⟩ ∧ firstLook 1 st w = (some w', st') ∧
      w'.contents.sizes = ⟨1, 0, 1⟩ ∧ Interleaves w'.journal st'.journal journal ∧
      Metrics.gauges journal = none := by
  have hload : (fullFile.load ()).1 = .ok listsC := by decide +kernel
  have hopened := openRegistry_of_load hload ()
  have hlooked : (firstLook 1 (fullFile.load ()).2
      ⟨(Registry.ofSnapshot listsC).attach reloadLogger, (), []⟩).1.map (fun w' =>
        (w'.contents.sizes, Metrics.gauges (w'.journal ++ (firstLook 1 (fullFile.load ()).2
          ⟨(Registry.ofSnapshot listsC).attach reloadLogger, (), []⟩).2.journal))) =
      some (⟨1, 0, 1⟩, none) := by
    decide +kernel
  generalize hlook : firstLook 1 (fullFile.load ()).2
    ⟨(Registry.ofSnapshot listsC).attach reloadLogger, (), []⟩ = looked at hlooked
  obtain ⟨served, st'⟩ := looked
  obtain ⟨w', rfl, hnoted⟩ := Option.map_eq_some_iff.1 hlooked
  obtain ⟨hsizes, hgauges⟩ := Prod.mk.inj hnoted
  have hsizes₀ : listsC.sizes = ⟨1, 0, 1⟩ := by decide +kernel
  exact ⟨_, _, w', st', _, hopened, hsizes₀, hlook, hsizes,
    Following.interleaves_append _ _, hgauges⟩

end HostRegistry
