import HostRegistry.Proofs.FileTree.Above
import HostRegistry.Proofs.Repository.Debounce
import HostRegistry.Proofs.Repository.FailedLoad

/-!
# The life of a repository

A repository is idle until a load with watching enabled returns a registry, and watching from then
on; closing it is final. While it watches, the registry that the last successful load returned
follows the file, and no other registry hears of it. That watching can fail to start is only because
the directory cannot be made: the directory of a plain name is there once it is made.
-/

namespace HostRegistry

open FileTree

/-! ## Loading and the watch -/

namespace Store

variable {σ ι : Type}

/-- With a plain name there is a directory to watch, once it is made: following fails only before it
has changed anything but the files. -/
theorem repository_of_startWatching_error {st st' : Store ι} {name : ι} {e : RepositoryError}
    (hname : Settings.isPlainName st.repository.settings.fileName = true)
    (h : st.startWatching name = (.error e, st')) : st'.repository = st.repository := by
  obtain ⟨⟨outcome, files⟩, hmade⟩ :
      ∃ made, st.files.makeDirectories st.repository.settings.dir = made := ⟨_, rfl⟩
  cases outcome with
  | error cause =>
    unfold startWatching at h
    split at h
    · cases h
    · simp only [hmade] at h
      cases h
      rfl
  | ok _ =>
    obtain ⟨l, hfound⟩ := resolve_directory_of_made hname hmade
    cases (startWatching_of_made hmade hfound name).symm.trans (congrArg Prod.fst h)

/-- A load that fails leaves the watch as it was. -/
theorem watch_of_load_error {st st' : Store ι} {name : ι} {e : RepositoryError}
    (hname : Settings.isPlainName st.repository.settings.fileName = true)
    (h : st.load name = (.error e, st')) :
    st'.repository.settings = st.repository.settings ∧
      st'.repository.watch = st.repository.watch := by
  unfold load at h
  rcases st.fetch_cases with ⟨e, -, hfetch⟩ | ⟨stored, fetched, -, hfetch, hrepository, -⟩
  · rw [hfetch] at h
    cases h
    exact ⟨rfl, rfl⟩
  rw [hfetch] at h
  simp only at h
  split at h
  · split at h
    next e' st' hwatch =>
      cases h
      have hname' : Settings.isPlainName fetched.repository.settings.fileName = true := by
        rw [hrepository]
        exact hname
      rw [repository_of_startWatching_error hname' hwatch, hrepository]
      exact ⟨rfl, rfl⟩
    next => cases h
  · cases h

/-- A load that is to watch nothing gives what the file holds, and leaves the watch as it was. -/
theorem load_of_unwatched {st : Store ι}
    (h : ¬(st.repository.settings.watcherEnabled = true ∧ st.repository.watch ≠ .closed))
    (name : ι) :
    (st.load name).1 =
        (st.files.readSnapshot st.repository.path).map (fun stored => stored.getD .empty) ∧
      (st.load name).2.repository.settings = st.repository.settings ∧
      (st.load name).2.repository.watch = st.repository.watch := by
  unfold load
  rcases st.fetch_cases with ⟨e, hread, hfetch⟩ | ⟨stored, fetched, hread, hfetch, hrepository, -⟩
  · rw [hfetch, hread]
    exact ⟨rfl, rfl, rfl⟩
  rw [hfetch, hread]
  simp only
  split
  next henabled =>
    rw [hrepository] at henabled
    have hclosed : fetched.repository.watch = .closed := by
      rw [hrepository]
      exact Classical.not_not.1 fun hopen => h ⟨henabled, hopen⟩
    have hfollow : fetched.startWatching name = (.ok (), fetched) := by
      unfold startWatching
      rw [hclosed]
    rw [hfollow, hrepository]
    exact ⟨rfl, rfl, rfl⟩
  next =>
    rw [hrepository]
    exact ⟨rfl, rfl, rfl⟩

/-- A load that succeeds has its registry follow the file, unless it is to watch nothing. The file
is then due for a first look. -/
theorem watch_of_load_ok {st st' : Store ι} {name : ι} {contents : Snapshot}
    (h : st.load name = (.ok contents, st')) :
    st'.repository.settings = st.repository.settings ∧
      ((st.repository.settings.watcherEnabled = true ∧ st.repository.watch ≠ .closed) ∧
        (∃ watch, st'.repository.watch = .watching watch ∧ watch.follower = name ∧
          watch.loop = .settling) ∨
      ¬(st.repository.settings.watcherEnabled = true ∧ st.repository.watch ≠ .closed) ∧
        st'.repository.watch = st.repository.watch) := by
  by_cases hwatches : st.repository.settings.watcherEnabled = true ∧ st.repository.watch ≠ .closed
  · obtain ⟨_, _, _, -, -, -, -, hfollowed⟩ := load_eq_ok hwatches.1 hwatches.2 h
    rw [hfollowed]
    exact ⟨rfl, .inl ⟨hwatches, _, rfl, rfl, rfl⟩⟩
  · obtain ⟨-, hsettings, hwatch⟩ := load_of_unwatched hwatches name
    rw [h] at hsettings hwatch
    exact ⟨hsettings, .inr ⟨hwatches, hwatch⟩⟩

end Store

/-! ## Being due for a look -/

/-- The loop of a watch, if there is one, has not ended. -/
def WatchState.Awake {ι : Type} : WatchState ι → Prop
  | .watching watch => watch.loop ≠ .ended
  | _ => True

/-- The file is due for a look once a change of the watched entry has come behind those that were
taken in, or while one of these still waits for its look. -/
def Watch.Due {ι : Type} (watch : Watch ι) (files : FileTree) : Prop :=
  watch.loop = .settling ∨ ∃ l ∈ files.notices.drop watch.seen, some l = watch.entry

namespace Store

variable {σ ι : Type}

def Due (st : Store ι) : Prop :=
  ∃ watch, st.repository.watch = .watching watch ∧ watch.Due st.files

/-- The quiet period behind the changes of the entry has a look exactly if the file is due. -/
theorem look_iff_due {watch : Watch ι} (hawake : watch.loop ≠ .ended) (files : FileTree) :
    ((watch.loop.after (((files.notices.drop watch.seen).filter fun l =>
      some l = watch.entry).map fun _ => .changed)).step .quiet).2 = true ↔ watch.Due files := by
  rw [Debounce.step_snd_eq_true_iff, Debounce.after_changes_eq_settling_iff hawake]
  simp [Watch.Due, List.filter_eq_nil_iff]

/-- Settling changes nothing but the state of the watch. -/
theorem settle_snd (st : Store ι) : ∃ watch, st.settle.2 = st.setWatch watch := by
  unfold settle
  split
  · exact ⟨_, rfl⟩
  · exact ⟨st.repository.watch, rfl⟩

/-- Settling looks on behalf of the follower, and looks exactly if the file is due. -/
theorem settle_fst_eq_some_iff {st : Store ι} (hawake : st.repository.watch.Awake) {name : ι} :
    st.settle.1 = some name ↔ st.repository.follower? = some name ∧ st.Due := by
  unfold settle
  cases hwatch : st.repository.watch with
  | watching watch =>
    rw [hwatch] at hawake
    have hdue : st.Due ↔ watch.Due st.files := by simp [Due, hwatch]
    rw [hdue, ← look_iff_due hawake, Repository.follower?, hwatch]
    simp only [ite_eq_iff, reduceCtorEq, and_false, or_false, Option.some.injEq]
    exact and_comm
  | idle => simp [Repository.follower?, hwatch]
  | closed => simp [Repository.follower?, hwatch]

/-- Settling keeps the follower, and the watch awake. -/
theorem settle_cases (st : Store ι) :
    (∀ name, st.settle.1 = some name → st.repository.follower? = some name) ∧
      st.settle.2.repository.follower? = st.repository.follower? ∧
      (st.settle.2.repository.watch = .closed ↔ st.repository.watch = .closed) ∧
      (st.repository.watch.Awake → st.settle.2.repository.watch.Awake) := by
  unfold settle
  split
  next watch hwatch =>
    simp only [Repository.follower?, setWatch, hwatch, true_and, WatchState.Awake]
    refine ⟨fun name hname => ?_, by simp, fun hawake => ?_⟩
    · split at hname
      · exact hname
      · cases hname
    · rw [Ne, Debounce.step_fst_eq_ended_iff, Debounce.after_eq_ended_iff]
      simp [hawake]
  next =>
    refine ⟨fun name hname => ?_, rfl, Iff.rfl, id⟩
    cases hname

/-! ## The watch and the other operations -/

theorem refresh_repository (depth : Nat) (st : Store ι) (w : Session σ) :
    (st.refresh depth w).2.repository.settings = st.repository.settings ∧
      (st.refresh depth w).2.repository.watch = st.repository.watch := by
  rw [Following.refresh_snd]
  rcases st.publishIfChanged_cases w with
    ⟨_, -, -, -, hlook⟩ | ⟨_, -, -, hlook⟩ | ⟨-, hlook | hlook⟩
  all_goals
    rw [hlook]
    exact ⟨rfl, rfl⟩

theorem clean_repository (st : Store ι) :
    st.clean.2.repository.settings = st.repository.settings ∧
      st.clean.2.repository.watch = st.repository.watch := by
  rcases st.clean_cases with ⟨files, -, hclean⟩ | ⟨-, hclean⟩ | ⟨e, hclean⟩
  all_goals
    rw [hclean]
    exact ⟨rfl, rfl⟩

theorem persist_repository (st : Store ι) (contents : Snapshot) :
    (st.persist contents).2.repository.settings = st.repository.settings ∧
      (st.persist contents).2.repository.watch = st.repository.watch := by
  rcases st.persist_cases contents with ⟨-, -, hrepository⟩ | ⟨_, _, -, -, hrepository⟩
  all_goals
    rw [hrepository]
    exact ⟨rfl, rfl⟩

end Store

/-! ## Runs -/

/-- A repository with the registries that loads from it have returned, in the order of the loads.
They are known to it by their places in this order. -/
structure Loaded (σ : Type) where
  store : Store Nat
  registries : List (Session σ)

namespace Loaded

inductive Step (σ : Type)
  /-- A registry is loaded; if that succeeds, the memory of its listeners starts as given. -/
  | load (memory : σ)
  /-- Contents of any registry are persisted, on a device that may refuse a part of it. -/
  | persist (contents : Snapshot) (device : Device)
  | clean
  | close
  /-- Anything happens to the files from outside. -/
  | outside (files : FileTree)
  /-- The watcher takes in what has changed, and looks at the file if it is due. -/
  | settle
  /-- The program does anything to one of the registries itself. -/
  | use (i : Nat) (w : Session σ)

variable {σ : Type}

/-- Loads a registry; the memory of its listeners starts as given. -/
def load (s : Loaded σ) (memory : σ) : Loaded σ :=
  match s.store.load s.registries.length with
  | (.error _, store) => { s with store }
  | (.ok contents, store) =>
    ⟨store, s.registries ++ [⟨Registry.ofSnapshot contents, memory, []⟩]⟩

/-- The watcher looks at the file for a registry. -/
def look (depth : Nat) (s : Loaded σ) (i : Nat) : Option (Loaded σ) :=
  match s.registries[i]? with
  | none => some s
  | some w =>
    let (looked, store) := s.store.refresh depth w
    looked.map fun w => ⟨store, s.registries.set i w⟩

/-- What follows the step, unless reloads nest too deeply. -/
def take (depth : Nat) (s : Loaded σ) : Step σ → Option (Loaded σ)
  | .load memory => some (s.load memory)
  | .persist contents device =>
    some { s with store := ({ s.store with device }.persist contents).2 }
  | .clean => some { s with store := s.store.clean.2 }
  | .close => some { s with store := s.store.close }
  | .outside files => some { s with store := { s.store with files } }
  | .settle =>
    let (due, store) := s.store.settle
    match due with
    | none => some { s with store }
    | some i => look depth { s with store } i
  | .use i w => some { s with registries := s.registries.set i w }

theorem take_settle (depth : Nat) (s : Loaded σ) :
    take depth s .settle =
      match s.store.settle.1 with
      | none => some { s with store := s.store.settle.2 }
      | some i => look depth { s with store := s.store.settle.2 } i := rfl

def after (depth : Nat) : Loaded σ → List (Step σ) → Option (Loaded σ)
  | s, [] => some s
  | s, step :: rest => (take depth s step).bind (after depth · rest)

/-- A new repository, from which nothing has been loaded. -/
def start (settings : RepositorySettings) (files : FileTree) (device : Device)
    (journal : List Event) : Loaded σ :=
  ⟨⟨.new settings, files, device, journal⟩, []⟩

/-! ## The invariant -/

/-- The state of the watch, told from whether the repository was closed and how many registries were
loaded. No loop ends but with its watch. -/
structure Standing (settings : RepositorySettings) (closed : Prop) (s : Loaded σ) : Prop where
  same : s.store.repository.settings = settings
  ended : s.store.repository.watch = .closed ↔ closed
  followed : ∀ i, s.store.repository.follower? = some i ↔
    settings.watcherEnabled = true ∧ ¬closed ∧ i + 1 = s.registries.length
  awake : s.store.repository.watch.Awake

theorem standing_start (settings : RepositorySettings) (files : FileTree) (device : Device)
    (journal : List Event) :
    Standing settings False (start (σ := σ) settings files device journal) where
  same := rfl
  ended := by simp [start, Repository.new]
  followed i := by simp [start, Repository.new, Repository.follower?]
  awake := trivial

theorem Standing.of_watch {settings : RepositorySettings} {closed : Prop} {s s' : Loaded σ}
    (h : Standing settings closed s)
    (hsettings : s'.store.repository.settings = s.store.repository.settings)
    (hwatch : s'.store.repository.watch = s.store.repository.watch)
    (hlength : s'.registries.length = s.registries.length) : Standing settings closed s' where
  same := hsettings.trans h.same
  ended := by rw [hwatch, h.ended]
  followed i := by
    rw [hlength, ← h.followed i, Repository.follower?, hwatch]
    rfl
  awake := hwatch ▸ h.awake

theorem Standing.of_iff {settings : RepositorySettings} {closed closed' : Prop} {s : Loaded σ}
    (h : Standing settings closed s) (hiff : closed ↔ closed') : Standing settings closed' s :=
  propext hiff ▸ h

theorem standing_of_ne_close {settings : RepositorySettings} {closed : Prop} {s : Loaded σ}
    {step : Step σ} (hstep : step ≠ .close) (h : Standing settings closed s) :
    Standing settings (closed ∨ step = .close) s :=
  h.of_iff (by simp [hstep])

theorem Standing.watching_iff {settings : RepositorySettings} {closed : Prop} {s : Loaded σ}
    (h : Standing settings closed s) :
    (∃ watch, s.store.repository.watch = .watching watch) ↔
      settings.watcherEnabled = true ∧ s.registries ≠ [] ∧ ¬closed := by
  have hfollower : (∃ watch, s.store.repository.watch = .watching watch) ↔
      ∃ i, s.store.repository.follower? = some i := by
    rw [Repository.follower?]
    cases s.store.repository.watch <;> simp
  rw [hfollower]
  constructor
  · rintro ⟨i, hi⟩
    obtain ⟨henabled, hopen, hlength⟩ := (h.followed i).1 hi
    exact ⟨henabled, List.ne_nil_of_length_eq_add_one hlength.symm, hopen⟩
  · rintro ⟨henabled, hloaded, hopen⟩
    obtain ⟨i, hi⟩ := Nat.exists_eq_add_one_of_ne_zero fun hnone =>
      hloaded (List.length_eq_zero_iff.1 hnone)
    exact ⟨i, (h.followed i).2 ⟨henabled, hopen, hi.symm⟩⟩

theorem Standing.idle_iff {settings : RepositorySettings} {closed : Prop} {s : Loaded σ}
    (h : Standing settings closed s) :
    s.store.repository.watch = .idle ↔
      ¬closed ∧ (settings.watcherEnabled = true → s.registries = []) := by
  have hwatching := h.watching_iff
  rw [← h.ended] at hwatching ⊢
  cases hwatch : s.store.repository.watch with
  | idle =>
    simp only [hwatch, reduceCtorEq, exists_false, false_iff, not_false_eq_true, and_true,
      not_and, Ne, Classical.not_not] at hwatching
    simpa using hwatching
  | watching watch =>
    have hwatches := hwatching.1 ⟨watch, hwatch⟩
    simp [hwatches]
  | closed => simp

theorem standing_load {settings : RepositorySettings} {closed : Prop} {s : Loaded σ}
    (h : Standing settings closed s) (hname : Settings.isPlainName settings.fileName = true)
    (memory : σ) : Standing settings closed (s.load memory) := by
  unfold load
  split
  next e store hload =>
    rw [← h.same] at hname
    obtain ⟨hsettings, hwatch⟩ := Store.watch_of_load_error hname hload
    exact h.of_watch hsettings hwatch rfl
  next contents store hload =>
    obtain ⟨hsettings, hload'⟩ := Store.watch_of_load_ok hload
    rw [h.same, Ne, h.ended] at hload'
    rcases hload' with ⟨⟨henabled, hopen⟩, watch, hwatch, hfollower, hloop⟩ | ⟨hidle, hwatch⟩
    · refine ⟨hsettings.trans h.same, ?_, fun i => ?_, ?_⟩
      · rw [hwatch]
        simp [hopen]
      · rw [Repository.follower?, hwatch, List.length_append, List.length_singleton]
        simp [henabled, hopen, hfollower, eq_comm]
      · rw [hwatch, WatchState.Awake, hloop]
        nofun
    · refine ⟨hsettings.trans h.same, by rw [hwatch, h.ended], fun i => ?_, hwatch ▸ h.awake⟩
      have hnobody := h.followed i
      rw [Repository.follower?, ← hwatch, ← Repository.follower?] at hnobody
      rw [hnobody]
      constructor
      · exact fun ⟨henabled, hopen, _⟩ => (hidle ⟨henabled, hopen⟩).elim
      · exact fun ⟨henabled, hopen, _⟩ => (hidle ⟨henabled, hopen⟩).elim

theorem standing_close {settings : RepositorySettings} {closed : Prop} {s : Loaded σ}
    (h : Standing settings closed s) :
    Standing settings True { s with store := s.store.close } := by
  obtain ⟨-, hrepository⟩ := s.store.stopWatching_files .closed
  have hrepository' : s.store.close.repository = { s.store.repository with watch := .closed } :=
    hrepository
  refine ⟨?_, ?_, fun i => ?_, ?_⟩
  · simp only [hrepository', h.same]
  · simp only [hrepository']
  · simp only [hrepository', Repository.follower?, not_true, false_and, and_false, reduceCtorEq]
  · simp only [hrepository', WatchState.Awake]

theorem standing_settle {settings : RepositorySettings} {closed : Prop} {s s' : Loaded σ}
    (h : Standing settings closed s) {depth : Nat} (htake : take depth s .settle = some s') :
    Standing settings closed s' := by
  obtain ⟨watch, hwatch⟩ := s.store.settle_snd
  obtain ⟨-, hfollower, hclosed, hawake⟩ := s.store.settle_cases
  have hsettled : Standing settings closed { s with store := s.store.settle.2 } := by
    refine ⟨?_, hclosed.trans h.ended, fun i => ?_, hawake h.awake⟩
    · rw [hwatch]
      exact h.same
    · rw [hfollower]
      exact h.followed i
  rw [take_settle] at htake
  generalize s.store.settle = settled at hsettled htake
  obtain ⟨due, store⟩ := settled
  cases due with
  | none =>
    cases htake
    exact hsettled
  | some i =>
    simp only [look] at htake
    split at htake
    · cases htake
      exact hsettled
    next w _ =>
      obtain ⟨w', -, rfl⟩ := Option.map_eq_some_iff.1 htake
      obtain ⟨hsettings', hwatch⟩ := store.refresh_repository depth w
      exact hsettled.of_watch hsettings' hwatch (List.length_set ..)

/-- What one step does to the state of the watch. -/
theorem standing_take {settings : RepositorySettings} {closed : Prop} {s s' : Loaded σ}
    (h : Standing settings closed s) (hname : Settings.isPlainName settings.fileName = true)
    {depth : Nat} {step : Step σ} (htake : take depth s step = some s') :
    Standing settings (closed ∨ step = .close) s' := by
  cases step with
  | close =>
    cases htake
    exact (standing_close h).of_iff (by simp)
  | load memory =>
    cases htake
    exact standing_of_ne_close (by nofun) (standing_load h hname memory)
  | settle => exact standing_of_ne_close (by nofun) (standing_settle h htake)
  | persist contents device =>
    cases htake
    obtain ⟨hsettings, hwatch⟩ := { s.store with device }.persist_repository contents
    apply standing_of_ne_close (by nofun)
    exact h.of_watch hsettings hwatch rfl
  | clean =>
    cases htake
    obtain ⟨hsettings, hwatch⟩ := s.store.clean_repository
    apply standing_of_ne_close (by nofun)
    exact h.of_watch hsettings hwatch rfl
  | outside files =>
    cases htake
    apply standing_of_ne_close (by nofun)
    exact h.of_watch rfl rfl rfl
  | use i w =>
    cases htake
    apply standing_of_ne_close (by nofun)
    exact h.of_watch rfl rfl (List.length_set ..)

theorem standing_of_after {settings : RepositorySettings} {closed : Prop} {s s' : Loaded σ}
    (h : Standing settings closed s) (hname : Settings.isPlainName settings.fileName = true)
    {depth : Nat} {steps : List (Step σ)} (hafter : after depth s steps = some s') :
    Standing settings (closed ∨ .close ∈ steps) s' := by
  induction steps generalizing s closed with
  | nil =>
    cases hafter
    exact h.of_iff (by simp)
  | cons step rest ih =>
    obtain ⟨next, htake, hrest⟩ := Option.bind_eq_some_iff.1 hafter
    refine (ih (standing_take h hname htake) hrest).of_iff ?_
    rw [List.mem_cons, or_assoc, eq_comm]

/-! ## Who hears of changes -/

theorem registries_load {s : Loaded σ} (memory : σ) {i : Nat} (hi : i < s.registries.length) :
    i < (s.load memory).registries.length ∧
      (s.load memory).registries[i]? = s.registries[i]? := by
  unfold load
  split
  · exact ⟨hi, rfl⟩
  · exact ⟨by simp only [List.length_append]; omega, List.getElem?_append_left hi⟩

/-- Only the registry that follows the file hears of what is not done to it by the program. -/
theorem registries_take {depth : Nat} {s s' : Loaded σ} {step : Step σ}
    (htake : take depth s step = some s') {i : Nat} (hi : i < s.registries.length)
    (huse : ∀ w, step ≠ .use i w) (hfollower : s.store.repository.follower? ≠ some i) :
    i < s'.registries.length ∧ s'.registries[i]? = s.registries[i]? := by
  cases step with
  | load memory =>
    cases htake
    exact registries_load memory hi
  | persist contents device | clean | close | outside files =>
    cases htake
    exact ⟨hi, rfl⟩
  | settle =>
    obtain ⟨hdue, -⟩ := s.store.settle_cases
    rw [take_settle] at htake
    generalize s.store.settle = settled at hdue htake
    obtain ⟨due, store⟩ := settled
    cases due with
    | none =>
      cases htake
      exact ⟨hi, rfl⟩
    | some j =>
      have hne : j ≠ i := by
        rintro rfl
        exact hfollower (hdue j rfl)
      simp only [look] at htake
      split at htake
      · cases htake
        exact ⟨hi, rfl⟩
      · obtain ⟨w, -, rfl⟩ := Option.map_eq_some_iff.1 htake
        exact ⟨(List.length_set ..).symm ▸ hi, List.getElem?_set_ne hne⟩
  | use j w =>
    cases htake
    have hne : j ≠ i := by
      rintro rfl
      exact huse w rfl
    exact ⟨(List.length_set ..).symm ▸ hi, List.getElem?_set_ne hne⟩

/-- Once the repository is closed, no registry hears of anything any more. -/
theorem registries_of_closed {settings : RepositorySettings} {depth : Nat} {s s' : Loaded σ}
    (h : Standing settings True s) (hname : Settings.isPlainName settings.fileName = true)
    {rest : List (Step σ)} (hafter : after depth s rest = some s') {i : Nat}
    (hi : i < s.registries.length) (huse : ∀ w, .use i w ∉ rest) :
    s'.registries[i]? = s.registries[i]? := by
  induction rest generalizing s with
  | nil =>
    cases hafter
    rfl
  | cons step rest ih =>
    obtain ⟨next, htake, hrest⟩ := Option.bind_eq_some_iff.1 hafter
    have hnobody : s.store.repository.follower? ≠ some i :=
      fun hfollower => ((h.followed i).1 hfollower).2.1 trivial
    obtain ⟨hi', hsame⟩ := registries_take htake hi
      (fun w hstep => huse w (hstep ▸ List.mem_cons_self)) hnobody
    have hnext : Standing settings True next := (standing_take h hname htake).of_iff (by simp)
    rw [← hsame]
    exact ih hnext hrest hi' fun w hmem => huse w (List.mem_cons_of_mem _ hmem)

/-- When the files change from outside and the watch then settles, the file is looked at for the
follower only, and exactly if it is due. -/
theorem settle_of_outside {settings : RepositorySettings} {closed : Prop} {s : Loaded σ}
    (h : Standing settings closed s) (depth : Nat) (files : FileTree) (i : Nat) :
    let st : Store Nat := { s.store with files }
    (st.settle.1 = some i ↔ s.store.repository.follower? = some i ∧ st.Due) ∧
      (st.settle.1 = some i → i < s.registries.length ∧
        ∃ watch, after depth s [.outside files, .settle] =
          look depth { s with store := st.setWatch watch } i) := by
  intro st
  have hdue : st.settle.1 = some i ↔ s.store.repository.follower? = some i ∧ st.Due :=
    Store.settle_fst_eq_some_iff (show st.repository.watch.Awake from h.awake)
  refine ⟨hdue, fun hlook => ⟨?_, ?_⟩⟩
  · obtain ⟨-, -, hlast⟩ := (h.followed i).1 (hdue.1 hlook).1
    omega
  · obtain ⟨watch, hwatch⟩ := st.settle_snd
    refine ⟨watch, ?_⟩
    show (take depth { s with store := st } .settle).bind some = _
    rw [Option.bind_fun_some, take_settle, hlook, ← hwatch]

/-- The life of a repository for a file with a plain name, through any loads, operations and changes
of the file. It is closed once it was closed, watching if a registry was loaded with watching
enabled, and idle otherwise. The registry that was loaded last follows the file while it is
watching: once changes of the watched entry have settled, the file is looked at for this registry
and for no other. A load that fails changes nothing about that, and no other registry hears of
changes. After it was closed, loads still give what the file holds, and no registry hears of changes
any more. -/
theorem life_cycle {settings : RepositorySettings}
    (hname : Settings.isPlainName settings.fileName = true) (files : FileTree) (device : Device)
    (journal : List Event) (depth : Nat) {steps : List (Step σ)} {s : Loaded σ}
    (h : after depth (start settings files device journal) steps = some s) :
    (s.store.repository.watch = .closed ↔ .close ∈ steps) ∧
    ((∃ watch, s.store.repository.watch = .watching watch) ↔
      settings.watcherEnabled = true ∧ s.registries ≠ [] ∧ .close ∉ steps) ∧
    (s.store.repository.watch = .idle ↔
      .close ∉ steps ∧ (settings.watcherEnabled = true → s.registries = [])) ∧
    (∀ i, s.store.repository.follower? = some i ↔
      settings.watcherEnabled = true ∧ .close ∉ steps ∧ i + 1 = s.registries.length) ∧
    (∀ files i,
      let st : Store Nat := { s.store with files }
      (st.settle.1 = some i ↔ s.store.repository.follower? = some i ∧ st.Due) ∧
        (st.settle.1 = some i → i < s.registries.length ∧
          ∃ watch, after depth s [.outside files, .settle] =
            look depth { s with store := st.setWatch watch } i)) ∧
    (∀ name e, (s.store.load name).1 = .error e →
      (s.store.load name).2.repository.watch = s.store.repository.watch) ∧
    (∀ step s', take depth s step = some s' → ∀ i < s.registries.length,
      (∀ w, step ≠ .use i w) → s.store.repository.follower? ≠ some i →
      s'.registries[i]? = s.registries[i]?) ∧
    (.close ∈ steps →
      (∀ name, (s.store.load name).1 =
        (s.store.files.readSnapshot s.store.repository.path).map fun stored =>
          stored.getD .empty) ∧
      ∀ rest s', after depth s rest = some s' → ∀ i < s.registries.length,
        (∀ w, .use i w ∉ rest) → s'.registries[i]? = s.registries[i]?) := by
  have hstanding : Standing settings (.close ∈ steps) s :=
    (standing_of_after (standing_start settings files device journal) hname h).of_iff (by simp)
  refine ⟨hstanding.ended, hstanding.watching_iff, hstanding.idle_iff, hstanding.followed,
    settle_of_outside hstanding depth, ?_, ?_, ?_⟩
  · intro name e he
    rw [← hstanding.same] at hname
    exact (Store.watch_of_load_error hname (Prod.ext he rfl)).2
  · exact fun step s' htake i hi huse hfollower =>
      (registries_take htake hi huse hfollower).2
  · intro hclosed
    refine ⟨fun name => ?_, fun rest s' hrest i hi huse => ?_⟩
    · exact (Store.load_of_unwatched (fun hopen => hopen.2 (hstanding.ended.2 hclosed)) name).1
    · exact registries_of_closed (hstanding.of_iff (by simp [hclosed])) hname hrest hi huse

/-- The file `f.json` with nothing in it. -/
def blankFile : FileTree :=
  FileTree.empty.set ["work", "f.json"] (.file (Bytes.ofText "\x7b\x7d"))

/-- Two loads with a change of the file between them. -/
def loadedTwice : List (Step Unit) := [.load (), .outside blankFile, .load (), .settle]

def servesC : Snapshot := .built [.change (.addContainerHost "c" "http://h")]

/-- The file is written once more. -/
def rewritten : FileTree :=
  blankFile.set ["work", "f.json"] (.file (Record.ofSnapshot servesC).toBytes)

/-- The registry that was loaded last takes in what is written then, the first one does not. -/
theorem life_cycle_loadedTwice :
    Settings.isPlainName "f.json" = true ∧
      ∃ s s', after 1 (start ⟨".", "f.json", true, 5000, 200⟩ .empty soundDevice []) loadedTwice =
          some s ∧ s.store.repository.follower? = some 1 ∧
        ({ s.store with files := rewritten } : Store Nat).Due ∧
        after 1 s [.outside rewritten, .settle] = some s' ∧
        s.registries.map (·.contents) = [.empty, .empty] ∧
        s'.registries.map (·.contents) = [.empty, servesC] := by
  have hname : Settings.isPlainName "f.json" = true := by decide
  have hrun : ((after 1 (start ⟨".", "f.json", true, 5000, 200⟩ .empty soundDevice [])
      loadedTwice).bind fun s => (after 1 s [.outside rewritten, .settle]).map fun s' =>
        (s.registries.map (·.contents), s'.registries.map (·.contents),
          ({ s.store with files := rewritten } : Store Nat).settle.1)) =
      some ([.empty, .empty], [.empty, servesC], some 1) := by
    decide +kernel
  obtain ⟨s, hafter, hrun⟩ := Option.bind_eq_some_iff.1 hrun
  obtain ⟨s', hafter', hcontents⟩ := Option.map_eq_some_iff.1 hrun
  simp only [Prod.mk.injEq] at hcontents
  obtain ⟨hbefore, hbehind, hlook⟩ := hcontents
  obtain ⟨-, -, -, -, hfollowed, -⟩ := life_cycle hname .empty soundDevice [] 1 hafter
  obtain ⟨hfollower, hdue⟩ := (hfollowed rewritten 1).1.1 hlook
  exact ⟨hname, s, s', hafter, hfollower, hdue, hafter', hbefore, hbehind⟩

end Loaded

end HostRegistry
