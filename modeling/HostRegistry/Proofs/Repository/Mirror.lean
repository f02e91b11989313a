import HostRegistry.Metrics
import HostRegistry.Proofs.Registry.Observers
import HostRegistry.Proofs.Repository.Quiet
import Mathlib.Data.List.Nodup

/-!
# A followed file is mirrored

A registry that nobody changes in memory, and whose listeners only observe, holds what was last read
of its file, and each listener was called once for every time that this became something else. What
is remembered is then either nothing or what the registry holds, so a look tells apart contents that
are new from contents that are not, whatever was written, removed or unreadable in between.
-/

namespace HostRegistry

namespace Store

variable {σ ι : Type}

/-- A load that succeeds remembers what it found. -/
theorem synced_of_load {st st' : Store ι} {name : ι} {contents : Snapshot}
    (h : st.load name = (.ok contents, st')) :
    st'.repository.synced = none ∨ st'.repository.synced = some contents := by
  have hstored : ∀ stored : Option Snapshot, stored = none ∨ stored = some (stored.getD .empty) :=
    fun stored => by cases stored <;> simp
  unfold load at h
  rcases st.fetch_cases with ⟨e, -, hfetch⟩ | ⟨stored, fetched, -, hfetch, hrepository, -⟩
  · rw [hfetch] at h
    cases h
  rw [hfetch] at h
  have hsynced : fetched.repository.synced = stored := by rw [hrepository]
  simp only at h
  split at h
  · split at h
    · cases h
    next followed hfollow =>
      cases h
      by_cases hclosed : fetched.repository.watch = .closed
      · rw [startWatching, hclosed] at hfollow
        cases hfollow
        exact hsynced ▸ hstored stored
      · obtain ⟨-, _, _, -, hfollowed⟩ := startWatching_eq_ok hclosed hfollow
        rw [hfollowed]
        exact hsynced ▸ hstored stored
  · cases h
    exact hsynced ▸ hstored stored

theorem persist_journal (st : Store ι) (contents : Snapshot) :
    ∃ success, (st.persist contents).2.journal = st.journal ++ [.persisted success] := by
  unfold persist
  generalize st.files.writeSnapshot st.device st.repository.path contents = written
  obtain ⟨outcome, files⟩ := written
  cases outcome <;> exact ⟨_, rfl⟩

theorem clean_synced (st : Store ι) :
    (st.clean.2.repository.synced = none ∨
      st.clean.2.repository.synced = st.repository.synced) ∧ st.clean.2.journal = st.journal := by
  rcases st.clean_cases with ⟨files, -, hclean⟩ | ⟨-, hclean⟩ | ⟨e, hclean⟩
  · rw [hclean]
    exact ⟨.inl rfl, rfl⟩
  · rw [hclean]
    exact ⟨.inl rfl, rfl⟩
  · rw [hclean]
    exact ⟨.inr rfl, rfl⟩

/-! ## One look -/

variable {st : Store ι} {w : Session σ}

theorem setSynced_self {contents : Snapshot} (h : st.repository.synced = some contents) :
    st.setSynced (some contents) = st := by
  rw [setSynced, ← h]

/-- A look at contents that the registry holds already. -/
theorem publishIfChanged_of_equal
    (h : st.files.readSnapshot st.repository.path = .ok (some w.contents)) :
    st.publishIfChanged w = (false, w, st.setSynced (some w.contents)) := by
  unfold publishIfChanged
  rw [h]
  by_cases hsynced : st.repository.synced = some w.contents
  · simp only [if_pos hsynced]
    rw [setSynced_self hsynced]
  · simp only [if_neg hsynced, if_true]

/-- A look at other contents, when what is remembered is what the registry holds or nothing. -/
theorem publishIfChanged_of_other {contents : Snapshot}
    (hsynced : st.repository.synced = none ∨ st.repository.synced = some w.contents)
    (h : st.files.readSnapshot st.repository.path = .ok (some contents))
    (hother : w.contents ≠ contents) :
    st.publishIfChanged w = (true, w.publish contents, st.setSynced (some contents)) := by
  have hnew : st.repository.synced ≠ some contents := by
    rcases hsynced with hnone | hlive
    · rw [hnone]
      nofun
    · rw [hlive]
      exact fun heq => hother (Option.some.inj heq)
  unfold publishIfChanged
  rw [h]
  simp only [if_neg hnew, if_neg hother]

/-- What a look does to a registry that only the file changes: a file that is missing or cannot be
read leaves it alone, contents that it holds are remembered, other ones are published. -/
theorem refresh_of_synced
    (hsynced : st.repository.synced = none ∨ st.repository.synced = some w.contents)
    (depth : Nat) :
    st.refresh depth w =
      match st.files.readSnapshot st.repository.path with
      | .error _ => (some w, st.note .rereadFailed)
      | .ok none => (some w, st)
      | .ok (some contents) =>
        (if w.contents = contents then some w else (w.publish contents).notify depth,
          st.setSynced (some contents)) := by
  unfold refresh
  cases hread : st.files.readSnapshot st.repository.path with
  | error cause =>
    unfold publishIfChanged
    rw [hread]
  | ok stored =>
    cases stored with
    | none =>
      unfold publishIfChanged
      rw [hread]
    | some contents =>
      by_cases hsame : w.contents = contents
      · subst hsame
        rw [publishIfChanged_of_equal hread]
        simp only [if_true]
      · rw [publishIfChanged_of_other hsynced hread hsame]
        simp only [if_neg hsame]

end Store

/-! ## What looks see -/

namespace Mirror

/-- What a look reads: contents, no file, or what keeps the file from being read. -/
abbrev Sight := Except RepositoryError (Option Snapshot)

/-- The loadable contents that were seen, in the order of the looks. -/
def loadable (sights : List Sight) : List Snapshot :=
  sights.filterMap fun
    | .ok contents => contents
    | .error _ => none

def failures (sights : List Sight) : Nat := sights.countP fun sight => !sight.isOk

theorem loadable_append (seen seen' : List Sight) :
    loadable (seen ++ seen') = loadable seen ++ loadable seen' :=
  List.filterMap_append

/-- The contents that differ from the ones before them. -/
def changes : Snapshot → List Snapshot → List Snapshot
  | _, [] => []
  | last, contents :: rest =>
    if contents = last then changes contents rest else contents :: changes contents rest

theorem changes_append (last : Snapshot) (seen seen' : List Snapshot) :
    changes last (seen ++ seen') = changes last seen ++ changes (seen.getLastD last) seen' := by
  induction seen generalizing last with
  | nil => rfl
  | cons contents rest ih =>
    rw [List.cons_append, changes, changes, ih, List.getLastD_cons]
    split <;> rfl

/-- As often as two contents seen after each other differ. -/
theorem length_changes (last : Snapshot) (seen : List Snapshot) :
    (changes last seen).length = ((last :: seen).zip seen).countP fun pair => pair.1 ≠ pair.2 := by
  induction seen generalizing last with
  | nil => rfl
  | cons contents rest ih =>
    rw [changes, List.zip_cons_cons, List.countP_cons]
    by_cases hsame : contents = last
    · rw [if_pos hsame, ih]
      simp [hsame]
    · rw [if_neg hsame, List.length_cons, ih]
      simp [Ne.symm hsame]

/-! ## Steps -/

inductive Step (σ : Type)
  /-- The file is looked at on behalf of the registry. -/
  | look
  /-- The registry is persisted, on a device that may refuse a part of it. -/
  | persist (device : FileTree.Device)
  | clean
  /-- Anything happens to the files from outside. -/
  | outside (files : FileTree)
  | attach (listener : Listener σ)
  | detach (id : ListenerId)

variable {σ ι : Type}

/-- A listener that is attached only observes. -/
def Step.Observes : Step σ → Prop
  | attach listener => Listener.Observes listener
  | _ => True

/-- How many listeners are attached. -/
def attachments (steps : List (Step σ)) : Nat :=
  steps.countP fun
    | .attach _ => true
    | _ => false

/-- What follows the step, unless reloads nest too deeply. -/
def take (depth : Nat) (f : Following σ ι) : Step σ → Option (Following σ ι)
  | .look =>
    let (session, store) := f.store.refresh depth f.session
    session.map fun session => ⟨session, store⟩
  | .persist device =>
    some { f with store := ({ f.store with device }.persist f.session.contents).2 }
  | .clean => some { f with store := f.store.clean.2 }
  | .outside files => some { f with store := { f.store with files } }
  | .attach listener => some { f with session := (f.session.attach listener).2 }
  | .detach id => some { f with session := (f.session.detach id).2 }

def after (depth : Nat) : Following σ ι → List (Step σ) → Option (Following σ ι)
  | f, [] => some f
  | f, step :: rest => (take depth f step).bind (after depth · rest)

def sight? (f : Following σ ι) : Step σ → Option Sight
  | .look => some (f.store.files.readSnapshot f.store.repository.path)
  | _ => none

/-- What the looks among the steps read, in their order. -/
def sights (depth : Nat) : Following σ ι → List (Step σ) → List Sight
  | _, [] => []
  | f, step :: rest =>
    (sight? f step).toList ++ ((take depth f step).map (sights depth · rest)).getD []

/-- What a load gave, followed by a registry with these listeners. -/
def start (contents : Snapshot) (listeners : List (Listener σ)) (memory : σ) (st : Store ι) :
    Following σ ι :=
  ⟨⟨(Registry.ofSnapshot contents).attachAll listeners, memory, []⟩, st⟩

def ids (f : Following σ ι) : List ListenerId := f.session.registry.listeners.map (·.1)

/-! ## The invariant -/

/-- Nothing is remembered but what the registry holds, and its listeners only observe. -/
structure InStep (f : Following σ ι) : Prop where
  synced : f.store.repository.synced = none ∨
    f.store.repository.synced = some f.session.contents
  observed : f.session.registry.Observed

/-- What was called under an id that was neither detached nor given again: each listener that has
it was called with every change. -/
def Heard (f : Following σ ι) (steps : List (Step σ)) (seen : List Sight) (f' : Following σ ι) :
    Prop :=
  ∀ given, f.session.registry.nextId = .after given →
    f'.session.registry.nextId = .after (given + attachments steps) ∧
      ∀ id, Step.detach id ∉ steps → (∀ n < attachments steps, id ≠ .after (given + n)) →
        (ids f').count id = (ids f).count id ∧
        received id f'.session.journal = received id f.session.journal ++
          (changes f.session.contents (loadable seen)).flatMap
            (List.replicate ((ids f).count id))

/-- What can be told of the state after steps from what their looks saw. -/
structure Reaches (f : Following σ ι) (steps : List (Step σ)) (seen : List Sight)
    (f' : Following σ ι) : Prop where
  inStep : InStep f'
  contents : f'.session.contents = (loadable seen).getLastD f.session.contents
  heard : Heard f steps seen f'
  errors : Metrics.count .watchErrors f'.store.journal =
    Metrics.count .watchErrors f.store.journal + failures seen

/-- Where nothing is done to the registry, there is nothing to be heard. -/
theorem heard_of_same {f f' : Following σ ι} {step : Step σ} {seen : List Sight}
    (hsession : f'.session = f.session) (hstep : attachments [step] = 0)
    (hnone : changes f.session.contents (loadable seen) = []) : Heard f [step] seen f' := by
  intro given hnext
  rw [hstep, ids, ids, hsession, hnone]
  exact ⟨hnext, fun id _ _ => ⟨rfl, (List.append_nil _).symm⟩⟩

theorem Reaches.trans {f f' f'' : Following σ ι} {steps steps' : List (Step σ)}
    {seen seen' : List Sight} (h : Reaches f steps seen f') (h' : Reaches f' steps' seen' f'') :
    Reaches f (steps ++ steps') (seen ++ seen') f'' where
  inStep := h'.inStep
  contents := by
    rw [h'.contents, h.contents, loadable_append]
    simp only [List.getLastD_eq_getLast?, List.getLast?_append, Option.getD_or]
  heard := by
    intro given hnext
    have hall : attachments (steps ++ steps') = attachments steps + attachments steps' :=
      List.countP_append
    rw [hall, ← Nat.add_assoc]
    obtain ⟨hnext', hheard⟩ := h.heard given hnext
    obtain ⟨hnext'', hheard'⟩ := h'.heard _ hnext'
    refine ⟨hnext'', fun id hdetach hagain => ?_⟩
    rw [List.mem_append, not_or] at hdetach
    obtain ⟨hcount, hreceived⟩ := hheard id hdetach.1 fun n hn => hagain n (by omega)
    obtain ⟨hcount', hreceived'⟩ := hheard' id hdetach.2 fun n hn => by
      rw [Nat.add_assoc]
      exact hagain _ (by omega)
    refine ⟨hcount'.trans hcount, ?_⟩
    rw [hreceived', hreceived, h.contents, hcount, loadable_append, changes_append,
      List.flatMap_append, List.append_assoc]
  errors := by
    rw [h'.errors, h.errors, failures, failures, failures, List.countP_append, Nat.add_assoc]

/-- A step that leaves the session alone and looks at nothing. -/
theorem reaches_of_store {f : Following σ ι} (h : InStep f) {step : Step σ} {store : Store ι}
    (hstep : attachments [step] = 0)
    (hsynced : store.repository.synced = none ∨
      store.repository.synced = some f.session.contents)
    (hjournal : Metrics.count .watchErrors store.journal =
      Metrics.count .watchErrors f.store.journal) :
    Reaches f [step] [] { f with store } where
  inStep := ⟨hsynced, h.observed⟩
  contents := rfl
  heard := heard_of_same rfl hstep rfl
  errors := hjournal

/-- Other contents are published and remembered, and everybody who is attached hears of them. -/
theorem reaches_of_publish {f : Following σ ι} (h : InStep f) {contents : Snapshot}
    (hother : f.session.contents ≠ contents) (depth : Nat) :
    ∃ session, (f.session.publish contents).notify (depth + 1) = some session ∧
      Reaches f [.look] [.ok (some contents)] ⟨session, f.store.setSynced (some contents)⟩ := by
  obtain ⟨session, hnotify, hregistry, hreceived⟩ :=
    Session.notify_of_observed (w := f.session.publish contents) h.observed depth
  have hcontents : session.contents = contents := congrArg Registry.contents hregistry
  have hlisteners : session.registry.listeners = f.session.registry.listeners := by
    rw [hregistry]
    rfl
  refine ⟨session, hnotify, ⟨.inr (congrArg some hcontents.symm), ?_⟩, hcontents,
    fun given hnext => ⟨?_, fun id _ _ => ⟨?_, ?_⟩⟩, rfl⟩
  · rw [Registry.Observed, hlisteners]
    exact h.observed
  · rw [hregistry]
    exact hnext
  · rw [ids, hlisteners]
    rfl
  · have hpublished : received id (f.session.publish contents).journal =
        received id f.session.journal := by
      rw [Session.publish, Session.note, received_append]
      exact List.append_nil _
    have hchanged : changes f.session.contents (loadable [.ok (some contents)]) = [contents] :=
      if_neg (Ne.symm hother)
    rw [hreceived, hpublished, hchanged, List.flatMap_singleton]
    rfl

theorem reaches_of_look {f : Following σ ι} (h : InStep f) (depth : Nat) :
    ∃ f', take (depth + 1) f .look = some f' ∧
      Reaches f [.look] [f.store.files.readSnapshot f.store.repository.path] f' := by
  rw [take, Store.refresh_of_synced h.synced]
  cases hread : f.store.files.readSnapshot f.store.repository.path with
  | error cause =>
    exact ⟨{ f with store := f.store.note .rereadFailed }, rfl,
      ⟨h.synced, h.observed⟩, rfl, heard_of_same rfl rfl rfl, List.countP_append⟩
  | ok stored =>
    cases stored with
    | none => exact ⟨f, rfl, h, rfl, heard_of_same rfl rfl rfl, rfl⟩
    | some contents =>
      by_cases hsame : f.session.contents = contents
      · simp only [if_pos hsame]
        refine ⟨{ f with store := f.store.setSynced (some contents) }, rfl,
          ⟨.inr (congrArg some hsame.symm), h.observed⟩, hsame, heard_of_same rfl rfl ?_, rfl⟩
        exact if_pos hsame.symm
      · simp only [if_neg hsame]
        obtain ⟨session, hnotify, hreaches⟩ := reaches_of_publish h hsame depth
        refine ⟨_, ?_, hreaches⟩
        rw [hnotify]
        rfl

theorem reaches_of_take {f : Following σ ι} (h : InStep f) (depth : Nat) {step : Step σ}
    (hstep : step.Observes) :
    ∃ f', take (depth + 1) f step = some f' ∧ Reaches f [step] (sight? f step).toList f' := by
  cases step with
  | look => exact reaches_of_look h depth
  | persist device =>
    refine ⟨_, rfl, reaches_of_store h rfl ?_ ?_⟩
    · rcases { f.store with device }.persist_cases f.session.contents with
        ⟨-, -, hrepository⟩ | ⟨e, cause, -, -, hrepository⟩
      · rw [hrepository]
        exact .inr rfl
      · rw [hrepository]
        exact h.synced
    · obtain ⟨success, hjournal⟩ := { f.store with device }.persist_journal f.session.contents
      rw [hjournal]
      exact List.countP_append
  | clean =>
    obtain ⟨hsynced, hjournal⟩ := f.store.clean_synced
    refine ⟨_, rfl, reaches_of_store h rfl ?_ (congrArg _ hjournal)⟩
    rcases hsynced with hnone | hsame
    · exact .inl hnone
    · rw [hsame]
      exact h.synced
  | outside files => exact ⟨_, rfl, reaches_of_store h rfl h.synced rfl⟩
  | attach listener =>
    refine ⟨_, rfl, ⟨h.synced, h.observed.attach hstep⟩, rfl, fun given hnext =>
      ⟨?_, fun id _ hagain => ⟨?_, (List.append_nil _).symm⟩⟩, rfl⟩
    · show f.session.registry.nextId + 1 = .after (given + 1)
      rw [ListenerId.after_succ, hnext]
    · have hother : id ≠ f.session.registry.nextId := hnext ▸ hagain 0 Nat.one_pos
      rw [ids, Session.attach, Registry.ids_attach, List.count_append,
        List.count_eq_zero_of_not_mem (mt List.mem_singleton.1 hother)]
      rfl
  | detach id =>
    refine ⟨_, rfl, ⟨h.synced, ?_⟩, rfl, fun given hnext =>
      ⟨hnext, fun id' hdetach _ => ⟨?_, (List.append_nil _).symm⟩⟩, rfl⟩
    · exact fun attached hattached => h.observed attached (List.mem_of_mem_filter hattached)
    · have hother : id' ≠ id := fun hsame => hdetach (hsame ▸ List.mem_singleton_self _)
      rw [ids, Session.detach, Registry.ids_detach, List.count_filter (by simpa using hother)]
      rfl

theorem reaches_of_after (depth : Nat) {f : Following σ ι} (h : InStep f) {steps : List (Step σ)}
    (hsteps : ∀ step ∈ steps, step.Observes) :
    ∃ f', after (depth + 1) f steps = some f' ∧
      Reaches f steps (sights (depth + 1) f steps) f' := by
  induction steps generalizing f with
  | nil =>
    exact ⟨f, rfl, h, rfl, fun given hnext =>
      ⟨hnext, fun id _ _ => ⟨rfl, (List.append_nil _).symm⟩⟩, rfl⟩
  | cons step rest ih =>
    obtain ⟨hstep, hrest⟩ := List.forall_mem_cons.1 hsteps
    obtain ⟨f₁, htake, hreaches₁⟩ := reaches_of_take h depth hstep
    obtain ⟨f₂, hafter, hreaches₂⟩ := ih hreaches₁.inStep hrest
    refine ⟨f₂, ?_, ?_⟩
    · rw [after, htake]
      exact hafter
    · rw [sights, htake]
      exact hreaches₁.trans hreaches₂

/-- The listeners have the first ids. -/
theorem start_ids (contents : Snapshot) (listeners : List (Listener σ)) (memory : σ)
    (st : Store ι) :
    (start contents listeners memory st).session.registry.nextId = .after listeners.length ∧
      ids (start contents listeners memory st) = (List.range listeners.length).map .after := by
  have hfirst : (Registry.ofSnapshot contents : Registry σ).nextId = .after 0 := rfl
  obtain ⟨hnext, hids⟩ := Registry.ids_attachAll hfirst listeners
  rw [Nat.zero_add] at hnext
  rw [List.range_eq_range']
  exact ⟨hnext, hids⟩

/-- As long as there are ids left, one that was given is not given again. -/
theorem count_ids_start (contents : Snapshot) {listeners : List (Listener σ)} (memory : σ)
    (st : Store ι) {more : Nat} (hleft : listeners.length + more ≤ UInt64.size) {id : ListenerId}
    (hid : id ∈ ids (start contents listeners memory st)) :
    (ids (start contents listeners memory st)).count id = 1 ∧
      ∀ n < more, id ≠ .after (listeners.length + n) := by
  rw [(start_ids contents listeners memory st).2] at hid ⊢
  refine ⟨List.count_eq_one_of_mem (ListenerId.nodup_after (by omega)) hid, fun n hn => ?_⟩
  obtain ⟨m, hm, rfl⟩ := List.mem_map.1 hid
  rw [List.mem_range] at hm
  rw [Ne, ListenerId.after_inj (by omega) (by omega)]
  omega

/-- From a load on, whatever happens to the file and however often it is looked at, persisted or
cleaned: all steps come to their end. The registry holds the contents that a look last found
loadable, or the loaded ones. Under an id that was neither detached nor given again, each listener
that has it was called with each contents that differ from those before them; as long as there are
ids for all listeners, each of the first ones has an id of its own. Each failed look is counted as a
watch error. The next look publishes if the file holds other contents, and otherwise leaves the
registry alone. -/
theorem mirrors_file {st st' : Store ι} {name : ι} {contents : Snapshot}
    (hload : st.load name = (.ok contents, st')) {listeners : List (Listener σ)}
    (hlisteners : ∀ listener ∈ listeners, Listener.Observes listener) (memory : σ) (depth : Nat)
    {steps : List (Step σ)} (hsteps : ∀ step ∈ steps, step.Observes) :
    (∃ stored, st.files.readSnapshot st.repository.path = .ok stored ∧
      contents = stored.getD .empty) ∧
    ∃ f, after (depth + 1) (start contents listeners memory st') steps = some f ∧
      (let seen := loadable (sights (depth + 1) (start contents listeners memory st') steps)
      f.session.contents = seen.getLastD contents ∧
      (∀ id, .detach id ∉ steps →
        (∀ n < attachments steps, id ≠ .after (listeners.length + n)) →
          received id f.session.journal = (changes contents seen).flatMap
            (List.replicate ((ids (start contents listeners memory st')).count id))) ∧
      (listeners.length + attachments steps ≤ UInt64.size →
        ∀ id ∈ ids (start contents listeners memory st'), .detach id ∉ steps →
          received id f.session.journal = changes contents seen ∧
          (received id f.session.journal).length =
            ((contents :: seen).zip seen).countP fun pair => pair.1 ≠ pair.2)) ∧
      Metrics.count .watchErrors f.store.journal = Metrics.count .watchErrors st'.journal +
        failures (sights (depth + 1) (start contents listeners memory st') steps) ∧
      f.store.refresh (depth + 1) f.session =
        match f.store.files.readSnapshot f.store.repository.path with
        | .error _ => (some f.session, f.store.note .rereadFailed)
        | .ok none => (some f.session, f.store)
        | .ok (some other) =>
          (if f.session.contents = other then some f.session
            else (f.session.publish other).notify (depth + 1),
            f.store.setSynced (some other)) := by
  refine ⟨Store.readSnapshot_of_load hload, ?_⟩
  have hcontents : (start contents listeners memory st').session.contents = contents :=
    Registry.attachAll_contents (.ofSnapshot contents) listeners
  have hstart : InStep (start contents listeners memory st') := by
    refine ⟨?_, (Registry.observed_ofSnapshot contents).attachAll hlisteners⟩
    rw [hcontents]
    exact Store.synced_of_load hload
  obtain ⟨f, hafter, hreaches⟩ := reaches_of_after depth hstart hsteps
  obtain ⟨-, hheard⟩ := hreaches.heard _ (start_ids contents listeners memory st').1
  rw [hcontents] at hheard
  refine ⟨f, hafter, ⟨?_, fun id hdetach hagain => (hheard id hdetach hagain).2,
    fun hleft id hid hdetach => ?_⟩, hreaches.errors,
    Store.refresh_of_synced hreaches.inStep.synced (depth + 1)⟩
  · rw [hreaches.contents, hcontents]
  · obtain ⟨hone, hagain⟩ := count_ids_start contents memory st' hleft hid
    have hreceived : received id f.session.journal = _ := (hheard id hdetach hagain).2
    rw [hone, List.flatMap_congr fun _ _ => List.replicate_one, List.flatMap_singleton']
      at hreceived
    refine ⟨hreceived, ?_⟩
    rw [hreceived]
    exact length_changes contents _

/-- The file `f.json` is written from outside. -/
def writing (bytes : Bytes) : Step Unit :=
  .outside (FileTree.empty.set ["work", "f.json"] (.file bytes))

def knowsC : Snapshot := .built [.change (.addContainerHost "c" "http://h")]

/-- The file comes into being, holds the same for a second look, then garbage, and goes again. -/
def comingAndGoing : List (Step Unit) :=
  [.look, writing (Record.ofSnapshot knowsC).toBytes, .look, .look, writing [0x7b], .look,
    .outside .empty, .look]

theorem mirrors_file_comingAndGoing :
    Listener.Observes (@reloadLogger Unit) ∧ (∀ step ∈ comingAndGoing, step.Observes) ∧
      ∃ st' f, Following.plainStore.load () = (.ok .empty, st') ∧
        after 1 (start .empty [reloadLogger] () st') comingAndGoing = some f ∧
        f.session.contents = knowsC ∧ received 1 f.session.journal = [knowsC] ∧
        Metrics.count .watchErrors f.store.journal = 1 := by
  have hload : Following.plainStore.load () = (.ok .empty, (Following.plainStore.load ()).2) :=
    Prod.ext rfl rfl
  have hlisteners : ∀ listener ∈ [@reloadLogger Unit], listener.Observes := by
    intro listener hlistener
    cases List.mem_singleton.1 hlistener
    exact observes_reloadLogger
  have hsteps : ∀ step ∈ comingAndGoing, step.Observes := by
    simp [comingAndGoing, writing, Step.Observes]
  obtain ⟨-, f, hafter, ⟨hcontents, -, hheard⟩, herrors, -⟩ :=
    mirrors_file hload hlisteners () 0 hsteps
  have hseen : loadable (sights 1 (start .empty [reloadLogger] ()
      (Following.plainStore.load ()).2) comingAndGoing) = [knowsC, knowsC] := by
    decide +kernel
  have hfailures : failures (sights 1 (start .empty [reloadLogger] ()
      (Following.plainStore.load ()).2) comingAndGoing) = 1 := by
    decide +kernel
  refine ⟨observes_reloadLogger, hsteps, _, f, hload, hafter, ?_, ?_, ?_⟩
  · rw [hcontents, hseen]
    rfl
  · have hleft : [@reloadLogger Unit].length + attachments comingAndGoing ≤ UInt64.size := by decide
    have hreceived := (hheard hleft 1 (by decide) (by simp [comingAndGoing, writing])).1
    rw [hseen] at hreceived
    rw [hreceived]
    decide
  · rw [herrors, hfailures]
    rfl

end Mirror

end HostRegistry
