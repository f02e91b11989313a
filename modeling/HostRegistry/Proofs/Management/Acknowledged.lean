import HostRegistry.Proofs.Management.Requests
import HostRegistry.Service.Startup

/-!
# Acknowledged registries can be loaded again

The contents of a live registry stay loadable and their index well-formed, whatever is requested of
the service and whatever happens to its file: requests are checked before they change anything, and
contents of the file are taken over only if they could be read. So what was persisted before an
acknowledgement is what is read back after it, unless the file cannot be reached by its path.
-/

namespace HostRegistry

/-! ## Live registries -/

namespace Session

variable {σ : Type}

/-- The contents can be loaded from what is stored of them, and reloads only announce them. -/
structure Sound (w : Session σ) : Prop where
  loadable : w.contents.Loadable
  wellFormed : InfoIndex.WellFormed w.contents.infoIndex
  announcing : ∀ attached ∈ w.registry.listeners, attached.2 = reloadLogger

theorem Sound.change {w : Session σ} (h : w.Sound) {c : Change}
    (hc : (c.apply w.contents).Loadable) : (w.change c).Sound :=
  ⟨hc, Snapshot.wellFormed_change h.wellFormed c, h.announcing⟩

theorem Sound.sweep {w : Session σ} (h : w.Sound) (url : String) : (w.sweep url).2.Sound := by
  refine ⟨Snapshot.loadable_sweep h.loadable url, ?_, h.announcing⟩
  have hindex := Snapshot.infoIndex_sweep w.contents url
  exact hindex ▸ h.wellFormed

theorem Sound.publish {w : Session σ} (h : w.Sound) {contents : Snapshot}
    (hloadable : contents.Loadable) (hindex : InfoIndex.WellFormed contents.infoIndex) :
    (w.publish contents).Sound :=
  ⟨hloadable, hindex, h.announcing⟩

theorem callAll_of_announcing (notify : Session σ → Option (Session σ))
    {listeners : List (ListenerId × Listener σ)}
    (h : ∀ attached ∈ listeners, attached.2 = reloadLogger) (w : Session σ) :
    ∃ w', callAll notify listeners w = some w' ∧ w'.registry = w.registry := by
  induction listeners generalizing w with
  | nil => exact ⟨w, rfl, rfl⟩
  | cons attached rest ih =>
    obtain ⟨id, listener⟩ := attached
    obtain ⟨rfl, hrest⟩ := List.forall_mem_cons.1 h
    obtain ⟨w', hcall, hregistry⟩ :=
      ih hrest ((w.note (.called id w.contents)).note (.serving w.contents))
    exact ⟨w', hcall, hregistry⟩

/-- Listeners that only announce are all called and leave the registry as it is. -/
theorem Sound.notify {w : Session σ} (h : w.Sound) (depth : Nat) :
    ∃ w', w.notify (depth + 1) = some w' ∧ w'.Sound := by
  obtain ⟨w', hcall, hregistry⟩ := callAll_of_announcing (Session.notify depth) h.announcing
    (w.note (.notifying (w.registry.listeners.map (·.1))))
  refine ⟨w', hcall, ?_, ?_, ?_⟩
  · rw [contents, hregistry]
    exact h.loadable
  · rw [contents, hregistry]
    exact h.wellFormed
  · rw [hregistry]
    exact h.announcing

end Session

namespace Store

variable {σ ι : Type}

/-- A look at the file keeps a registry sound. -/
theorem sound_of_refresh {st st' : Store ι} {w w' : Session σ} (h : w.Sound) {depth : Nat}
    (hrefresh : st.refresh depth w = (some w', st')) : w'.Sound := by
  unfold refresh at hrefresh
  rcases st.publishIfChanged_cases w with
    ⟨contents, hread, -, -, hlook⟩ | ⟨contents, -, -, hlook⟩ | ⟨-, hlook | hlook⟩
  · obtain ⟨hloadable, hindex⟩ := FileTree.loadable_of_readSnapshot hread
    rw [hlook] at hrefresh
    have hnotify := congrArg Prod.fst hrefresh
    cases depth with
    | zero => cases hnotify
    | succ depth =>
      obtain ⟨notified, hnotified, hsound⟩ := (h.publish hloadable hindex).notify depth
      cases hnotified.symm.trans hnotify
      exact hsound
  all_goals
    rw [hlook] at hrefresh
    cases hrefresh
    exact h

/-- An open registry is sound. -/
theorem sound_of_openRegistry {st st' : Store ι} {name : ι} {memory : σ} {w : Session σ}
    (h : openRegistry st name memory = (.ok w, st')) : w.Sound := by
  unfold openRegistry at h
  split at h
  · cases h
  next contents loaded hload =>
    cases h
    have hannouncing : ∀ attached ∈
        ((Registry.ofSnapshot contents).attach (@reloadLogger σ)).listeners,
        attached.2 = reloadLogger := by
      intro attached hattached
      cases List.mem_singleton.1 hattached
      rfl
    obtain ⟨stored, hread, rfl⟩ := readSnapshot_of_load hload
    cases stored with
    | none => exact ⟨Snapshot.loadable_empty, InfoIndex.wellFormed_empty, hannouncing⟩
    | some stored =>
      obtain ⟨hloadable, hindex⟩ := FileTree.loadable_of_readSnapshot hread
      exact ⟨hloadable, hindex, hannouncing⟩

/-- The files as a new repository with the same settings finds them. -/
def renew (st : Store ι) : Store ι := { st with repository := .new st.repository.settings }

end Store

/-! ## Services at work -/

namespace Management.Service

variable {σ ι : Type}

/-- What a service comes to from an open registry on: requests are answered, its file is looked at,
and files and device change as they like. -/
inductive Reachable : Service σ ι → Prop
  | opened {st st' : Store ι} {name : ι} {memory : σ} {session : Session σ}
      (opened : openRegistry st name memory = (.ok session, st')) : Reachable ⟨session, st'⟩
  | responded {s : Service σ ι} (reachable : Reachable s) (r : Request) : Reachable (s.respond r).2
  | settled {s : Service σ ι} (reachable : Reachable s) :
      Reachable { s with store := s.store.settle.2 }
  | looked {s : Service σ ι} (reachable : Reachable s) {depth : Nat} {session : Session σ}
      {store : Store ι} (looked : s.store.refresh depth s.session = (some session, store)) :
      Reachable ⟨session, store⟩
  | outside {s : Service σ ι} (reachable : Reachable s) (files : FileTree)
      (device : FileTree.Device) : Reachable { s with store := { s.store with files, device } }

theorem sound_respond {s : Service σ ι} (h : s.session.Sound) (r : Request) :
    (s.respond r).2.session.Sound := by
  have heffect := s.effect_respond r
  generalize s.respond r = responded at heffect ⊢
  cases heffect with
  | none response => exact h
  | register host loadable named answer =>
    rw [((s.change _).persist_cases answer).1]
    exact h.change (Snapshot.loadable_register h.loadable loadable named host)
  | unregister info server host answer =>
    rw [((s.change _).persist_cases answer).1]
    exact h.change (Snapshot.loadable_unregister h.loadable info server host)
  | @sweep url host session swept =>
    have hsound := h.sweep url
    rw [swept] at hsound
    rw [(Service.persist_cases _ _).1]
    exact hsound
  | @spare url session spared =>
    have hsound := h.sweep url
    rw [spared] at hsound
    exact hsound

theorem Reachable.sound {s : Service σ ι} (h : Reachable s) : s.session.Sound := by
  induction h with
  | opened opened => exact Store.sound_of_openRegistry opened
  | responded _ r ih => exact sound_respond ih r
  | settled _ ih => exact ih
  | looked _ looked ih => exact Store.sound_of_refresh ih looked
  | outside _ files device ih => exact ih

/-! ## What a new start finds -/

/-- What a new repository with the same settings would load from the files now. -/
def restart (s : Service σ ι) (name : ι) : Except RepositoryError Snapshot :=
  (s.store.renew.load name).1

/-- The repository file holds what the registry holds, and a new start loads it. For a name that the
settings do not allow, a start that watches may fail to make its directory. -/
def Stored (s : Service σ ι) : Prop :=
  s.store.files.readSnapshot s.store.repository.path = .ok (some s.session.contents) ∧
    ∀ name, s.restart name = .ok s.session.contents ∨
      s.store.repository.settings.watcherEnabled = true ∧
      Settings.isPlainName s.store.repository.settings.fileName = false ∧
      ∃ cause, s.restart name = .error (.files s.store.repository.settings.dir cause)

/-- The file lies behind itself, where no start finds it. -/
def Unreachable (s : Service σ ι) : Prop :=
  s.store.files.readSnapshot s.store.repository.path =
      .error (.files s.store.repository.path .notDirectory) ∧
    ∀ name, s.restart name = .error (.files s.store.repository.path .notDirectory)

theorem stored_of_readSnapshot {s : Service σ ι}
    (h : s.store.files.readSnapshot s.store.repository.path = .ok (some s.session.contents)) :
    s.Stored := by
  have hrenewed : s.store.renew.files.readSnapshot s.store.renew.repository.path =
      .ok (some s.session.contents) := h
  exact ⟨h, Store.load_of_readSnapshot hrenewed⟩

theorem unreachable_of_read {s : Service σ ι}
    (h : s.store.files.read s.store.repository.path = .error .notDirectory) : s.Unreachable := by
  have hread : s.store.files.readSnapshot s.store.repository.path =
      .error (.files s.store.repository.path .notDirectory) := by
    rw [FileTree.readSnapshot, h]
  refine ⟨hread, fun name => ?_⟩
  have hrenewed : s.store.renew.files.readSnapshot s.store.renew.repository.path =
      .error (.files s.store.repository.path .notDirectory) := hread
  unfold restart Store.load
  rcases s.store.renew.fetch_cases with ⟨e, herror, hfetch⟩ | ⟨stored, _, hstored, -⟩
  · cases hrenewed.symm.trans herror
    rw [hfetch]
  · cases hrenewed.symm.trans hstored

/-- The registry is loadable at all times. Whenever a change of it is acknowledged, the repository
file holds it and a new start loads it; only a path that named a link to a directory, or a circle of
links, may lead nowhere afterwards. -/
theorem stored_of_acknowledges {s : Service σ ι} (h : Reachable s) :
    s.session.contents.Loadable ∧
      ∀ r, Acknowledges r (s.respond r).1 →
        Stored (s.respond r).2 ∨
          Unreachable (s.respond r).2 ∧
          (s.store.files.makeDirectories (Path.directory s.store.repository.path)).2.Misled
            s.store.repository.path := by
  refine ⟨h.sound.loadable, fun r hacknowledges => ?_⟩
  obtain ⟨hok, hstore⟩ := persisted_of_acknowledges hacknowledges
  obtain ⟨hloadable, hindex, -⟩ := sound_respond h.sound r
  have hread := Store.read_of_persist hok
  have hrepository := (Store.persist_ok hok).2
  generalize (s.respond r).2 = after at hok hstore hloadable hindex hread hrepository ⊢
  rw [← hstore] at hread hrepository
  have hpath : after.store.repository.path = s.store.repository.path := by
    rw [hrepository]
    rfl
  rcases hread with hread | ⟨-, hread, hmisled⟩
  · left
    refine stored_of_readSnapshot ?_
    rw [hpath]
    exact FileTree.readSnapshot_of_loadable hread hindex hloadable
  · right
    exact ⟨unreachable_of_read (hpath ▸ hread), hmisled⟩

/-- A store without a file `f` in its directory yet. -/
def blankStore (dir : String) (files : FileTree) : Store Unit :=
  ⟨.new { dir, fileName := "f" }, files, FileTree.soundDevice, []⟩

/-- A service that opened its registry on such a store. -/
def blankService (dir : String) (files : FileTree) : Service Unit Unit :=
  ⟨⟨(Registry.ofSnapshot .empty).attach reloadLogger, (), []⟩, ((blankStore dir files).load ()).2⟩

def registerC : Request where
  method := "POST"
  target := "/mgmt/add"
  contentType := some "application/json"
  body := Json.compact (Registration.toJson ⟨"c", "", "g:a:v", "s", "http://h"⟩)

theorem stored_registerC :
    Reachable (blankService "." .empty) ∧
      Acknowledges registerC ((blankService "." .empty).respond registerC).1 ∧
      Stored ((blankService "." .empty).respond registerC).2 := by
  have hopened : openRegistry (blankStore "." .empty) () () =
      (.ok (blankService "." .empty).session, (blankService "." .empty).store) := rfl
  have hacknowledges : Acknowledges registerC ((blankService "." .empty).respond registerC).1 :=
    ⟨by decide +kernel, .inl (by decide)⟩
  have hsettled := (stored_of_acknowledges (.opened hopened)).2 registerC hacknowledges
  refine ⟨.opened hopened, hacknowledges, hsettled.resolve_right ?_⟩
  rintro ⟨⟨hunreachable, -⟩, -⟩
  have hfails := congrArg Except.isOk hunreachable
  revert hfails
  decide +kernel

/-- The entry `f` is a link to a directory that is not there yet. -/
def linkedTree : FileTree := FileTree.empty.set ["work", "f"] (.link "a")

/-- The path leads through `f` to `f`. Once the link is replaced by the repository file, the path
leads nowhere, and the acknowledged registry cannot be read. -/
theorem not_stored_registerC :
    ∃ s : Service Unit Unit, Reachable s ∧ Acknowledges registerC (s.respond registerC).1 ∧
      ((s.respond registerC).2.store.files.readSnapshot s.store.repository.path).toOption =
        none := by
  have hopened : openRegistry (blankStore "a/../f/.." linkedTree) () () =
      (.ok (blankService "a/../f/.." linkedTree).session,
        (blankService "a/../f/.." linkedTree).store) := rfl
  exact ⟨_, .opened hopened, ⟨by decide +kernel, .inl (by decide)⟩, by decide +kernel⟩

end Management.Service

end HostRegistry
