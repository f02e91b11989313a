import HostRegistry.Proofs.Repository.Quiet

/-!
# Loads that fail

A load that cannot read the file changes nothing. One that read it and then cannot make the
directory leaves the registry followed that was followed before, but remembers what it read. Where
that is what was remembered already, later looks at the file are those of a repository that was not
asked to load; otherwise contents that the process wrote itself may be taken for a change from
outside.
-/

namespace HostRegistry

open FileTree

namespace Store

variable {σ ι : Type}

/-! ## How a load fails -/

theorem startWatching_eq_error {st st' : Store ι} {name : ι} {e : RepositoryError}
    (h : st.startWatching name = (.error e, st')) :
    (∃ cause files, e = .files st.repository.settings.dir cause ∧ st' = { st with files }) ∨
      ∃ cause, e = .watch cause := by
  unfold startWatching at h
  split at h
  · cases h
  simp only at h
  split at h
  next cause files _ =>
    cases h
    exact .inl ⟨cause, files, rfl, rfl⟩
  next files _ =>
    unfold watchDirectory at h
    split at h
    next cause _ =>
      cases h
      exact .inr ⟨cause, rfl⟩
    · cases h

/-- A load fails in reading, or in making the directory after it has read, or in watching. -/
theorem load_eq_error {st st' : Store ι} {name : ι} {e : RepositoryError}
    (h : st.load name = (.error e, st')) :
    ((∃ cause, st.files.readSnapshot st.repository.path = .error cause) ∧ st' = st) ∨
    (∃ stored cause, st.files.readSnapshot st.repository.path = .ok stored ∧
      e = .files st.repository.settings.dir cause ∧
      st'.repository = { st.repository with synced := stored } ∧ st'.device = st.device) ∨
    ∃ cause, e = .watch cause := by
  unfold load fetch at h
  cases hread : st.files.readSnapshot st.repository.path with
  | error cause =>
    rw [hread] at h
    cases h
    exact .inl ⟨⟨_, rfl⟩, rfl⟩
  | ok stored =>
    rw [hread] at h
    simp only at h
    split at h
    · split at h
      next e watched hwatch =>
        cases h
        rcases startWatching_eq_error hwatch with ⟨cause, files, rfl, rfl⟩ | hcause
        · exact .inr (.inl ⟨stored, cause, rfl, rfl, rfl, rfl⟩)
        · exact .inr (.inr hcause)
      · cases h
    · cases h

/-! ## Stores that do the same -/

/-- The stores differ in their journals at most. -/
structure Agrees (st st' : Store ι) : Prop where
  repository : st'.repository = st.repository
  files : st'.files = st.files
  device : st'.device = st.device

theorem Agrees.eq {st st' : Store ι} (h : st.Agrees st') :
    st' = { st with journal := st'.journal } := by
  cases st'
  cases st
  cases h
  simp_all

theorem Agrees.persist {st st' : Store ι} (h : st.Agrees st') (contents : Snapshot) :
    (st.persist contents).2.Agrees (st'.persist contents).2 := by
  rw [h.eq]
  unfold Store.persist
  simp only
  split <;> constructor <;> rfl

theorem Agrees.clean {st st' : Store ι} (h : st.Agrees st') : st.clean.2.Agrees st'.clean.2 := by
  rw [h.eq]
  unfold Store.clean
  simp only
  split <;> constructor <;> rfl

theorem Agrees.look {st st' : Store ι} (h : st.Agrees st') (w : Session σ) :
    (st.publishIfChanged w).1 = (st'.publishIfChanged w).1 ∧
      (st.publishIfChanged w).2.1 = (st'.publishIfChanged w).2.1 ∧
      (st.publishIfChanged w).2.2.Agrees (st'.publishIfChanged w).2.2 := by
  rw [h.eq]
  unfold publishIfChanged
  simp only
  split
  · exact ⟨rfl, rfl, rfl, rfl, rfl⟩
  · exact ⟨rfl, rfl, rfl, rfl, rfl⟩
  · split
    · exact ⟨rfl, rfl, rfl, rfl, rfl⟩
    · split <;> exact ⟨rfl, rfl, rfl, rfl, rfl⟩

theorem Agrees.refresh {st st' : Store ι} (h : st.Agrees st') (depth : Nat) (w : Session σ) :
    (st.refresh depth w).1 = (st'.refresh depth w).1 ∧
      (st.refresh depth w).2.Agrees (st'.refresh depth w).2 := by
  obtain ⟨hpublished, hsession, hlooked⟩ := h.look w
  unfold Store.refresh
  generalize st.publishIfChanged w = looked at hpublished hsession hlooked ⊢
  generalize st'.publishIfChanged w = looked' at hpublished hsession hlooked ⊢
  obtain ⟨published, session, store⟩ := looked
  obtain ⟨published', session', store'⟩ := looked'
  cases hpublished
  cases hsession
  cases published <;> exact ⟨rfl, hlooked⟩

end Store

namespace Following

variable {σ ι : Type}

/-- The same registry follows stores that differ in their journals at most. -/
structure Agrees (f f' : Following σ ι) : Prop where
  session : f'.session = f.session
  store : f.store.Agrees f'.store

theorem rel_map_of_agrees {st st' : Store ι} {session session' : Option (Session σ)}
    (hsession : session = session') (h : st.Agrees st') :
    Option.Rel Agrees (session.map fun w => (⟨w, st⟩ : Following σ ι))
      (session'.map fun w => ⟨w, st'⟩) := by
  cases hsession
  cases session with
  | none => exact .none
  | some w => exact .some ⟨rfl, h⟩

/-- The same step publishes from both or from neither, and leads to followings that agree. -/
theorem Agrees.take {f f' : Following σ ι} (h : f.Agrees f') (depth : Nat) (step : Step σ) :
    (f'.take depth step).1 = (f.take depth step).1 ∧
      Option.Rel Agrees (f.take depth step).2 (f'.take depth step).2 := by
  obtain ⟨w, st⟩ := f
  obtain ⟨w', st'⟩ := f'
  obtain rfl : w = w' := h.session.symm
  have hstore : st.Agrees st' := h.store
  cases step with
  | change c | sweep url | attach listener | detach id => exact ⟨rfl, .some ⟨rfl, hstore⟩⟩
  | reload contents => exact ⟨rfl, rel_map_of_agrees rfl hstore⟩
  | persist ops device =>
    have hdevice : { st with device }.Agrees { st' with device } :=
      ⟨hstore.repository, hstore.files, rfl⟩
    exact ⟨rfl, .some ⟨rfl, hdevice.persist (Snapshot.built ops)⟩⟩
  | clean => exact ⟨rfl, .some ⟨rfl, hstore.clean⟩⟩
  | look =>
    obtain ⟨hsession, hrefreshed⟩ := hstore.refresh depth w
    exact ⟨(hstore.look w).1.symm, rel_map_of_agrees hsession hrefreshed⟩
  | outside files => exact ⟨rfl, .some ⟨rfl, hstore.repository, rfl, hstore.device⟩⟩

/-- Runs of the same steps lead to the same session and publish equally often. -/
theorem Agrees.after {f f' : Following σ ι} (h : f.Agrees f') (depth : Nat)
    (steps : List (Step σ)) :
    (Following.after depth f' steps).map Following.session =
        (Following.after depth f steps).map Following.session ∧
      publications depth f' steps = publications depth f steps := by
  induction steps generalizing f f' with
  | nil => exact ⟨congrArg some h.session, rfl⟩
  | cons step rest ih =>
    obtain ⟨hpublished, hrel⟩ := h.take depth step
    rw [Following.after, Following.after, publications, publications, hpublished]
    generalize (f.take depth step).2 = next at hrel ⊢
    generalize (f'.take depth step).2 = next' at hrel ⊢
    cases hrel with
    | none => exact ⟨rfl, rfl⟩
    | some hnext =>
      obtain ⟨hsession, hcount⟩ := ih hnext
      exact ⟨hsession, congrArg _ hcount⟩

/-! ## After a failed load -/

/-- A load that fails leaves settings and watch as they were, and everything else too if the file
could not be read. Otherwise it remembers what it read, which is nothing unless the file name is not
plain. Where that was remembered before, everything later is as if nothing had been loaded. -/
theorem synced_of_load_error {st st' : Store ι} {name : ι} {e : RepositoryError}
    (h : st.load name = (.error e, st')) (hwatch : ∀ cause, e ≠ .watch cause) :
    st'.repository.settings = st.repository.settings ∧
    st'.repository.watch = st.repository.watch ∧
    ((∃ cause, st.files.readSnapshot st.repository.path = .error cause) → st' = st) ∧
    (st'.repository.synced = st.repository.synced ↔
      ∀ stored, st.files.readSnapshot st.repository.path = .ok stored →
        stored = st.repository.synced) ∧
    (Settings.isPlainName st.repository.settings.fileName = true →
      ∀ contents, st.files.readSnapshot st.repository.path ≠ .ok (some contents)) ∧
    (st'.repository.synced = st.repository.synced →
      ∀ (depth : Nat) (w : Session σ) (steps : List (Step σ)),
        (Following.after depth ⟨w, st'⟩ steps).map Following.session =
            (Following.after depth ⟨w, { st with files := st'.files }⟩ steps).map
              Following.session ∧
          publications depth ⟨w, st'⟩ steps =
            publications depth ⟨w, { st with files := st'.files }⟩ steps) := by
  have hplain : Settings.isPlainName st.repository.settings.fileName = true →
      ∀ contents, st.files.readSnapshot st.repository.path ≠ .ok (some contents) := by
    intro hname contents hread
    rcases Store.load_of_readSnapshot hread name with hok | ⟨-, hname', -⟩
    · cases (congrArg Prod.fst h).symm.trans hok
    · cases hname.symm.trans hname'
  rcases Store.load_eq_error h with
    ⟨⟨cause, hread⟩, rfl⟩ | ⟨stored, cause, hread, -, hrepository, hdevice⟩ | ⟨cause, hcause⟩
  · refine ⟨rfl, rfl, fun _ => rfl, ⟨fun _ stored hstored => ?_, fun _ => rfl⟩, hplain,
      fun _ _ _ _ => ⟨rfl, rfl⟩⟩
    cases hread.symm.trans hstored
  · refine ⟨by rw [hrepository], by rw [hrepository], ?_, ?_, hplain, ?_⟩
    · rintro ⟨cause, herror⟩
      cases hread.symm.trans herror
    · rw [hrepository]
      constructor
      · intro hsynced stored' hstored
        cases hread.symm.trans hstored
        exact hsynced
      · exact fun hstored => hstored stored hread
    · intro hsynced
      have hsame : st'.repository = st.repository := by
        have hstored : stored = st.repository.synced := by
          rw [hrepository] at hsynced
          exact hsynced
        rw [hrepository, hstored]
      intro depth w steps
      have hagrees : (Following.mk w { st with files := st'.files }).Agrees ⟨w, st'⟩ :=
        ⟨rfl, hsame, rfl, hdevice⟩
      exact hagrees.after depth steps
  · exact (hwatch cause hcause).elim

deriving instance DecidableEq for Except

/-- A repository whose directory is a link to another one. -/
def linkedStore : Store Unit :=
  ⟨.new { dir := "repo", fileName := "f.json", watcherEnabled := true },
    (FileTree.empty.set ["work", "real"] .directory).set ["work", "repo"] (.link "real"),
    soundDevice, []⟩

/-- The registry was persisted and loaded, and a host was added to it since. -/
def ahead : Following Unit Unit :=
  let stored := Snapshot.built [.change (.addContainerHost "c" "http://h")]
  ⟨(⟨.ofSnapshot stored, (), []⟩ : Session Unit).change (.addContainerHost "c" "http://i"),
    ((linkedStore.persist stored).2.load ()).2⟩

/-- The file has been overwritten with something that is no registry. -/
def corrupted : Store Unit :=
  { ahead.store with
    files := ahead.store.files.set ["work", "real", "f.json"] (.file (Bytes.ofText "\x7b")) }

theorem synced_corrupted :
    (corrupted.load ()).1 = .error (.corrupt "repo/f.json" .truncated) ∧
      (corrupted.load ()).2.repository.synced = corrupted.repository.synced ∧
      corrupted.repository.synced ≠ none := by
  have hload : (corrupted.load ()).1 = .error (.corrupt "repo/f.json" .truncated) := by
    decide +kernel
  have hread : ∃ cause, corrupted.files.readSnapshot corrupted.repository.path = .error cause :=
    ⟨.corrupt "repo/f.json" .truncated, by decide +kernel⟩
  have hremembered : corrupted.repository.synced ≠ none := by decide +kernel
  generalize hresult : corrupted.load () = result at hload ⊢
  obtain ⟨outcome, st'⟩ := result
  obtain rfl : outcome = _ := hload
  obtain rfl : st' = corrupted :=
    (@synced_of_load_error Unit Unit _ _ _ _ hresult fun _ => nofun).2.2.1 hread
  exact ⟨rfl, rfl, hremembered⟩

/-- The link leads nowhere for a while. -/
def dangling : Store Unit :=
  { ahead.store with files := ahead.store.files.set ["work", "repo"] (.link "gone") }

/-- A load that fails while the link leads nowhere forgets what the process wrote. When the link is
back, the next look takes that for contents from outside and publishes it over what is newer. -/
theorem publications_dangling :
    (dangling.load ()).1 = .error (.files "repo" .alreadyExists) ∧
      dangling.repository.synced ≠ none ∧ (dangling.load ()).2.repository.synced = none ∧
      publications 1 ⟨ahead.session, (dangling.load ()).2⟩ [.outside ahead.store.files, .look] = 1 ∧
      publications 1 ⟨ahead.session, dangling⟩ [.outside ahead.store.files, .look] = 0 ∧
      (after 1 ⟨ahead.session, (dangling.load ()).2⟩ [.outside ahead.store.files, .look]).map
        (·.session.contents) ≠ some ahead.session.contents := by
  decide +kernel

end Following

end HostRegistry
