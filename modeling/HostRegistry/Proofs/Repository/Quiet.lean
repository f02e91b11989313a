import HostRegistry.Proofs.Repository.Operations

/-!
# A repository does not hear itself

A repository is quiet when its path is settled and loadable contents of the file are the remembered
ones. Looks at the file publish nothing then, and nothing that the process itself does ends the
quiet: what it persists is remembered as it would be read back, failed attempts bring no other file
into reach, and a removed file leaves nothing to read. A look that publishes makes the repository
quiet, so only a change from outside leads to another publication.
-/

namespace HostRegistry

open FileTree

namespace Store

variable {σ ι : Type}

structure Quiet (st : Store ι) : Prop where
  settled : st.files.Settled st.repository.path
  remembered : ∀ contents, st.files.readSnapshot st.repository.path = .ok (some contents) →
    st.repository.synced = some contents

/-- The directory of the file is there, but no file. -/
structure Absent (st : Store ι) : Prop where
  found : ∃ found, st.files.resolve (Path.directory st.repository.path) = .ok found
  missing : st.files.read st.repository.path = .error .notFound

def Calm (st : Store ι) : Prop := st.Quiet ∨ st.Absent

theorem Calm.remembered {st : Store ι} (h : st.Calm) {contents : Snapshot}
    (hread : st.files.readSnapshot st.repository.path = .ok (some contents)) :
    st.repository.synced = some contents := by
  rcases h with hquiet | habsent
  · exact hquiet.remembered contents hread
  · cases (readSnapshot_eq_ok_none_iff.2 habsent.missing).symm.trans hread

/-! ## What the process does itself -/

/-- Built contents that are persisted are remembered as they would be read back. -/
theorem quiet_of_persist_ok {st : Store ι} (ops : List Operation)
    (h : (st.persist (Snapshot.built ops)).1 = .ok ()) :
    (st.persist (Snapshot.built ops)).2.Quiet := by
  have hread := read_of_persist h
  have hrepository := (persist_ok h).2
  generalize (st.persist (Snapshot.built ops)).2 = after at hread hrepository ⊢
  have hpath : st.repository.path = after.repository.path := by
    rw [hrepository]
    rfl
  rw [hpath] at hread
  rcases hread with hread | ⟨hplace, hread, -⟩
  · refine ⟨.inl ⟨_, hread⟩, fun contents hcontents => ?_⟩
    rw [eq_of_readSnapshot_stored hread (Snapshot.wellFormed_built ops) hcontents, hrepository]
  · have hlink : ¬after.files.EndsInLink (after.files.place false after.repository.path) := by
      rw [hplace]
      rintro ⟨dir, name, slash, target, hfound, -⟩
      cases hfound
    refine ⟨.inr ⟨by rw [hplace]; nofun, hlink⟩, fun contents hcontents => ?_⟩
    rw [readSnapshot, hread] at hcontents
    cases hcontents

/-- A failed attempt to persist makes directories at most, which changes nothing for a calm
repository. -/
theorem Calm.persist {st : Store ι} (h : st.Calm) (ops : List Operation) :
    (st.persist (Snapshot.built ops)).2.Calm := by
  rcases st.persist_cases (Snapshot.built ops) with ⟨hok, -⟩ | ⟨e, cause, -, houtcome, hrepository⟩
  · exact .inl (quiet_of_persist_ok ops hok)
  have hfiles := st.persist_files (Snapshot.built ops)
  generalize (st.persist (Snapshot.built ops)).2 = after at hfiles hrepository ⊢
  -- Directories made on the way bring nothing into reach of a settled path, and none are made where
  -- the directory is there.
  rcases h with hquiet | habsent
  · obtain ⟨hsettled, hread⟩ := hquiet.settled.of_grows (grows_of_replace_error houtcome)
    rw [← hfiles] at hsettled hread
    refine .inl ⟨hrepository ▸ hsettled, fun contents hcontents => ?_⟩
    rw [hrepository] at hcontents ⊢
    obtain ⟨bytes, record, hbytes, hrecord, hsnapshot⟩ := readSnapshot_eq_ok_some_iff.1 hcontents
    refine hquiet.remembered contents (readSnapshot_eq_ok_some_iff.2 ?_)
    exact ⟨bytes, record, hread bytes hbytes, hrecord, hsnapshot⟩
  · obtain ⟨⟨l, node⟩, hfound⟩ := habsent.found
    have halike := alike_of_replace_error houtcome hfound
    rw [← hfiles] at halike
    refine .inr ⟨⟨(l, node), ?_⟩, ?_⟩
    · rw [hrepository]
      exact halike.grows.resolve hfound
    · rw [hrepository, halike.read]
      exact habsent.missing

theorem Calm.clean {st : Store ι} (h : st.Calm) : st.clean.2.Calm := by
  rcases st.clean_cases with ⟨files, hunlink, hclean⟩ | ⟨hmissing, hclean⟩ | ⟨e, hclean⟩
  · rw [hclean]
    have hbefore : st.files.Settled st.repository.path ∨
        st.files.read st.repository.path = .error .notFound :=
      h.imp Quiet.settled Absent.missing
    refine .inl ⟨settled_of_unlink hunlink hbefore, fun contents hcontents => ?_⟩
    cases (readSnapshot_eq_ok_none_iff.2 (read_of_unlink hunlink)).symm.trans hcontents
  · rw [hclean]
    refine h.imp (fun hquiet => ⟨hquiet.settled, fun contents hcontents => ?_⟩)
      fun habsent => ⟨habsent.found, habsent.missing⟩
    cases (readSnapshot_eq_ok_none_iff.2 hmissing).symm.trans hcontents
  · rw [hclean]
    exact h

/-! ## Looks at the file -/

/-- A repository that remembers what its file holds is quiet. -/
theorem quiet_setSynced {st : Store ι} {contents : Snapshot}
    (hread : st.files.readSnapshot st.repository.path = .ok (some contents)) :
    (st.setSynced (some contents)).Quiet := by
  obtain ⟨bytes, -, hbytes, -⟩ := readSnapshot_eq_ok_some_iff.1 hread
  refine ⟨.inl ⟨bytes, hbytes⟩, fun contents' hcontents => ?_⟩
  cases hread.symm.trans hcontents
  rfl

/-- A look that publishes makes the repository quiet. -/
theorem quiet_of_published {st : Store ι} {w : Session σ} (h : (st.publishIfChanged w).1 = true) :
    (st.publishIfChanged w).2.2.Quiet := by
  rcases st.publishIfChanged_cases w with
    ⟨contents, hread, -, -, hlook⟩ | ⟨contents, -, -, hlook⟩ | ⟨-, hlook | hlook⟩
  · rw [hlook]
    exact quiet_setSynced hread
  all_goals
    rw [hlook] at h
    cases h

/-- A calm repository publishes nothing and stays calm. -/
theorem Calm.look {st : Store ι} (h : st.Calm) (w : Session σ) :
    (st.publishIfChanged w).1 = false ∧ (st.publishIfChanged w).2.2.Calm := by
  rcases st.publishIfChanged_cases w with
    ⟨contents, hread, hsynced, -⟩ | ⟨contents, hread, -, hlook⟩ | ⟨-, hlook | hlook⟩
  · exact (hsynced (h.remembered hread)).elim
  · rw [hlook]
    exact ⟨rfl, .inl (quiet_setSynced hread)⟩
  · rw [hlook]
    exact ⟨rfl, h⟩
  · rw [hlook]
    exact ⟨rfl, h.imp (fun hquiet => ⟨hquiet.settled, hquiet.remembered⟩)
      fun habsent => ⟨habsent.found, habsent.missing⟩⟩

/-! ## Loading -/

/-- A load that found what is still there once the directories are made leaves a calm repository. -/
theorem calm_of_load {st st' : Store ι} {name : ι} {contents : Snapshot}
    (henabled : st.repository.settings.watcherEnabled = true)
    (hopen : st.repository.watch ≠ .closed) (hload : st.load name = (.ok contents, st'))
    (hmissing : st.files.readSnapshot st.repository.path = .ok none →
      st'.files.readSnapshot st.repository.path = .ok none) : st'.Calm := by
  obtain ⟨stored, l, node, hread, -, hmade, hfound, hfollowed⟩ := load_eq_ok henabled hopen hload
  have hpath : st'.repository.path = st.repository.path := by
    rw [hfollowed]
    rfl
  cases stored with
  | none =>
    refine .inr ⟨⟨(l, node), hpath ▸ hfound⟩, ?_⟩
    rw [hpath]
    exact readSnapshot_eq_ok_none_iff.1 (hmissing hread)
  | some stored =>
    obtain ⟨bytes, record, hbytes, hrecord, hcontents⟩ := readSnapshot_eq_ok_some_iff.1 hread
    have hbytes' : st'.files.read st'.repository.path = .ok bytes := by
      have hgrows := grows_makeDirectories st.files st.repository.settings.dir
      rw [hmade] at hgrows
      rw [hpath, ← hbytes]
      exact (hgrows.read_or _).resolve_left fun hnone => by cases hbytes.symm.trans hnone
    refine .inl ⟨.inl ⟨bytes, hbytes'⟩, fun contents' hcontents' => ?_⟩
    have hstored := readSnapshot_eq_ok_some_iff.2 ⟨bytes, record, hbytes', hrecord, hcontents⟩
    cases hstored.symm.trans hcontents'
    rw [hfollowed]
    rfl

end Store

/-! ## Runs -/

/-- A registry that follows the file of a repository. -/
structure Following (σ ι : Type) where
  session : Session σ
  store : Store ι

namespace Following

inductive Step (σ : Type)
  | change (c : Change)
  | sweep (url : String)
  | reload (contents : Snapshot)
  | attach (listener : Listener σ)
  | detach (id : ListenerId)
  /-- Contents of any registry are persisted, in this one's state or another, on a device that may
  refuse a part of it. -/
  | persist (ops : List Operation) (device : Device)
  | clean
  /-- The file is looked at on behalf of the registry. -/
  | look
  /-- Anything else happens to the files. -/
  | outside (files : FileTree)

def Step.isOutside {σ : Type} : Step σ → Bool
  | outside _ => true
  | _ => false

variable {σ ι : Type}

/-- Whether the step publishes, and what follows it unless reloads nest too deeply. -/
def take (depth : Nat) (f : Following σ ι) : Step σ → Bool × Option (Following σ ι)
  | .change c => (false, some { f with session := f.session.change c })
  | .sweep url => (false, some { f with session := (f.session.sweep url).2 })
  | .reload contents =>
    (false, (f.session.reload depth contents).map fun session => { f with session })
  | .attach listener => (false, some { f with session := (f.session.attach listener).2 })
  | .detach id => (false, some { f with session := (f.session.detach id).2 })
  | .persist ops device =>
    (false, some { f with store := ({ f.store with device }.persist (Snapshot.built ops)).2 })
  | .clean => (false, some { f with store := f.store.clean.2 })
  | .look =>
    let (session, store) := f.store.refresh depth f.session
    ((f.store.publishIfChanged f.session).1, session.map fun session => ⟨session, store⟩)
  | .outside files => (false, some { f with store := { f.store with files } })

/-- What follows the steps, if all of them come to their end. -/
def after (depth : Nat) : Following σ ι → List (Step σ) → Option (Following σ ι)
  | f, [] => some f
  | f, step :: rest => (f.take depth step).2.bind (after depth · rest)

/-- How many of the steps publish. -/
def publications (depth : Nat) : Following σ ι → List (Step σ) → Nat
  | _, [] => 0
  | f, step :: rest =>
    (f.take depth step).1.toNat +
      match (f.take depth step).2 with
      | some f => publications depth f rest
      | none => 0

theorem refresh_snd (depth : Nat) (st : Store ι) (w : Session σ) :
    (st.refresh depth w).2 = (st.publishIfChanged w).2.2 := by
  unfold Store.refresh
  generalize st.publishIfChanged w = looked
  obtain ⟨published, w, st⟩ := looked
  cases published <;> rfl

/-- A calm repository stays calm whatever the process does, and nothing is published. -/
theorem take_of_calm (depth : Nat) {f : Following σ ι} (h : f.store.Calm) {step : Step σ}
    (hstep : step.isOutside = false) :
    (f.take depth step).1 = false ∧ ∀ f', (f.take depth step).2 = some f' → f'.store.Calm := by
  cases step with
  | change c | sweep url | attach listener | detach id =>
    refine ⟨rfl, fun f' hf' => ?_⟩
    cases hf'
    exact h
  | reload contents =>
    refine ⟨rfl, fun f' hf' => ?_⟩
    obtain ⟨session, -, rfl⟩ := Option.map_eq_some_iff.1 hf'
    exact h
  | persist ops device =>
    have hcalm : { f.store with device }.Calm :=
      h.imp (fun hquiet => ⟨hquiet.settled, hquiet.remembered⟩)
        fun habsent => ⟨habsent.found, habsent.missing⟩
    refine ⟨rfl, fun f' hf' => ?_⟩
    cases hf'
    exact hcalm.persist ops
  | clean =>
    refine ⟨rfl, fun f' hf' => ?_⟩
    cases hf'
    exact h.clean
  | look =>
    obtain ⟨hpublished, hcalm⟩ := h.look f.session
    refine ⟨hpublished, fun f' hf' => ?_⟩
    obtain ⟨session, -, rfl⟩ := Option.map_eq_some_iff.1 hf'
    rw [← refresh_snd depth] at hcalm
    exact hcalm
  | outside files => cases hstep

/-- A step that publishes is a look, and leaves a calm repository. -/
theorem calm_of_take {depth : Nat} {f f' : Following σ ι} {step : Step σ}
    (h : (f.take depth step).1 = true) (hf' : (f.take depth step).2 = some f') :
    f'.store.Calm := by
  cases step with
  | look =>
    obtain ⟨session, -, rfl⟩ := Option.map_eq_some_iff.1 hf'
    have hquiet := Store.quiet_of_published h
    rw [← refresh_snd depth] at hquiet
    exact .inl hquiet
  | change c | sweep url | reload contents | attach listener | detach id | persist ops device
  | clean | outside files => cases h

theorem publications_of_calm (depth : Nat) {f : Following σ ι} (h : f.store.Calm)
    {inside : List (Step σ)} (hinside : ∀ step ∈ inside, step.isOutside = false) :
    publications depth f inside = 0 := by
  induction inside generalizing f with
  | nil => rfl
  | cons step rest ih =>
    obtain ⟨hstep, hrest⟩ := List.forall_mem_cons.1 hinside
    obtain ⟨hnone, hcalm⟩ := take_of_calm depth h hstep
    rw [publications, hnone]
    cases hnext : (f.take depth step).2 with
    | none => rfl
    | some f' =>
      have := ih (hcalm f' hnext) hrest
      simp only [this, Bool.toNat_false]

/-- From any state on, at most one step publishes before something happens outside. -/
theorem publications_le_one (depth : Nat) (f : Following σ ι) {inside : List (Step σ)}
    (hinside : ∀ step ∈ inside, step.isOutside = false) : publications depth f inside ≤ 1 := by
  induction inside generalizing f with
  | nil => exact Nat.zero_le 1
  | cons step rest ih =>
    obtain ⟨hstep, hrest⟩ := List.forall_mem_cons.1 hinside
    rw [publications]
    cases hpublished : (f.take depth step).1 with
    | false =>
      cases (f.take depth step).2 with
      | none => exact Nat.zero_le 1
      | some f' =>
        rw [Bool.toNat_false, Nat.zero_add]
        exact ih f' hrest
    | true =>
      cases hnext : (f.take depth step).2 with
      | none => exact Nat.le_refl 1
      | some f' =>
        have := publications_of_calm depth (calm_of_take hpublished hnext) hrest
        simp only [this, Bool.toNat_true, Nat.add_zero, Nat.le_refl]

/-- Between two changes from outside at most one look publishes. None does before the first of them,
as long as a file that the load did not find is not found either once its directory is made; and
none does after built contents were persisted, so what the process wrote is never rolled back to. -/
theorem publications_between_changes {st st' : Store ι} {name : ι} {contents : Snapshot}
    (henabled : st.repository.settings.watcherEnabled = true)
    (hopen : st.repository.watch ≠ .closed) (hload : st.load name = (.ok contents, st'))
    (depth : Nat) (w : Session σ) {inside : List (Step σ)}
    (hinside : ∀ step ∈ inside, step.isOutside = false) :
    (∀ before f, after depth ⟨w, st'⟩ before = some f → publications depth f inside ≤ 1) ∧
    ((st.files.readSnapshot st.repository.path = .ok none →
        st'.files.readSnapshot st.repository.path = .ok none) →
      publications depth ⟨w, st'⟩ inside = 0) ∧
    ∀ before f ops device, after depth ⟨w, st'⟩ before = some f →
      ({ f.store with device }.persist (Snapshot.built ops)).1 = .ok () →
      publications depth f (.persist ops device :: inside) = 0 := by
  refine ⟨fun _ f _ => publications_le_one depth f hinside, fun hmissing => ?_, ?_⟩
  · have hcalm : (Following.mk w st').store.Calm :=
      Store.calm_of_load henabled hopen hload hmissing
    exact publications_of_calm depth hcalm hinside
  · intro _ f ops device _ hpersist
    have hcalm : (Following.mk f.session
        ({ f.store with device }.persist (Snapshot.built ops)).2).store.Calm :=
      .inl (Store.quiet_of_persist_ok ops hpersist)
    simp only [publications, take, Bool.toNat_false, Nat.zero_add]
    exact publications_of_calm depth hcalm hinside

/-- A repository in the working directory, without a file. -/
def plainStore : Store Unit :=
  ⟨.new { fileName := "f.json", watcherEnabled := true }, .empty, soundDevice, []⟩

def idleSession : Session Unit := ⟨.empty, (), []⟩

theorem publications_plainStore :
    plainStore.repository.settings.watcherEnabled = true ∧
      publications 1 ⟨idleSession, (plainStore.load ()).2⟩
        [.change (.addContainerHost "c" "http://h"), .persist [] soundDevice, .look] = 0 := by
  have hopen : plainStore.repository.watch ≠ .closed := nofun
  have hload : plainStore.load () = (.ok .empty, (plainStore.load ()).2) := Prod.ext rfl rfl
  refine ⟨rfl, (publications_between_changes rfl hopen hload 1 idleSession ?_).2.1 fun _ => rfl⟩
  decide

/-- The file that the path leads to once the directory `a` is there, which it is not. -/
def lateFile : Store Unit :=
  ⟨.new { dir := "a/..", fileName := "f.json", watcherEnabled := true },
    FileTree.empty.set ["work", "f.json"] (.file (Record.ofSnapshot
      (Snapshot.built [.change (.addContainerHost "c" "http://h")])).toBytes),
    soundDevice, []⟩

/-- The load finds no file and makes the directory; the first look finds the file and publishes,
although nothing happened outside. -/
theorem publications_lateFile :
    (lateFile.load ()).1.toOption = some .empty ∧
      publications 1 ⟨idleSession, (lateFile.load ()).2⟩ [.look] = 1 := by
  decide +kernel

end Following

end HostRegistry
