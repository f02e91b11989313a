import HostRegistry.Registry

/-!
# Listeners that only observe

A listener that looks at the registry, keeps notes and announces, but acts on nothing, leaves the
registry as it is. So when all listeners do no more than that, a notification calls each of them
once, with the contents that were published, and comes to its end without a nested one.
-/

namespace HostRegistry

/-- The action changes, sweeps and reloads nothing and attaches and detaches nobody. -/
inductive Action.Observes {σ : Type} : Action σ → Prop
  | done : Observes .done
  | remember {f : σ → σ} {next : Action σ} (h : next.Observes) : Observes (.remember f next)
  | consult {next : σ → Action σ} (h : ∀ memory, (next memory).Observes) :
      Observes (.recall next)
  | inspect {next : Snapshot → Action σ} (h : ∀ contents, (next contents).Observes) :
      Observes (.inspect next)
  | announce {contents : Snapshot} {next : Action σ} (h : next.Observes) :
      Observes (.announce contents next)

def Listener.Observes {σ : Type} (listener : Listener σ) : Prop :=
  ∀ contents, Action.Observes (listener contents)

theorem observes_reloadLogger {σ : Type} : Listener.Observes (@reloadLogger σ) :=
  fun _ => .announce .done

/-- The contents with which a listener was called, in the order of the calls. -/
def received (id : ListenerId) (journal : List Event) : List Snapshot :=
  journal.filterMap fun
    | .called listener contents => if listener = id then some contents else none
    | _ => none

theorem received_append (id : ListenerId) (journal journal' : List Event) :
    received id (journal ++ journal') = received id journal ++ received id journal' :=
  List.filterMap_append

namespace Registry

variable {σ : Type}

/-- Attaches the listeners one after the other. -/
def attachAll (r : Registry σ) (listeners : List (Listener σ)) : Registry σ :=
  listeners.foldl attach r

/-- Listeners get their ids in the order in which they are attached. -/
theorem ids_attachAll {r : Registry σ} {given : Nat} (h : r.nextId = .after given)
    (listeners : List (Listener σ)) :
    (r.attachAll listeners).nextId = .after (given + listeners.length) ∧
      (r.attachAll listeners).listeners.map (·.1) =
        r.listeners.map (·.1) ++ (List.range' given listeners.length).map .after := by
  induction listeners generalizing r given with
  | nil => exact ⟨h, (List.append_nil _).symm⟩
  | cons listener rest ih =>
    have hnext : (r.attach listener).nextId = .after (given + 1) := by
      rw [ListenerId.after_succ, ← h]
      rfl
    obtain ⟨hlast, hids⟩ := ih hnext
    refine ⟨?_, ?_⟩
    · rw [List.length_cons, Nat.add_comm rest.length, ← Nat.add_assoc]
      exact hlast
    · rw [List.length_cons, List.range'_succ, List.map_cons, ← h, List.append_cons, ← ids_attach]
      exact hids

/-- All listeners only observe. -/
def Observed (r : Registry σ) : Prop := ∀ attached ∈ r.listeners, attached.2.Observes

theorem observed_ofSnapshot (contents : Snapshot) :
    (ofSnapshot contents : Registry σ).Observed := by
  intro attached hattached
  cases hattached

theorem Observed.attach {r : Registry σ} (h : r.Observed) {listener : Listener σ}
    (hlistener : listener.Observes) : (r.attach listener).Observed := by
  intro attached hattached
  rcases List.mem_append.1 hattached with hold | hlast
  · exact h attached hold
  · cases List.mem_singleton.1 hlast
    exact hlistener

theorem Observed.attachAll {r : Registry σ} (h : r.Observed) {listeners : List (Listener σ)}
    (hlisteners : ∀ listener ∈ listeners, Listener.Observes listener) :
    (r.attachAll listeners).Observed := by
  induction listeners generalizing r with
  | nil => exact h
  | cons listener rest ih =>
    obtain ⟨hlistener, hrest⟩ := List.forall_mem_cons.1 hlisteners
    exact ih (h.attach hlistener) hrest

theorem attachAll_contents (r : Registry σ) (listeners : List (Listener σ)) :
    (r.attachAll listeners).contents = r.contents := by
  induction listeners generalizing r with
  | nil => rfl
  | cons listener rest ih => exact ih (r.attach listener)

end Registry

namespace Session

variable {σ : Type}

theorem perform_of_observes (notify : Session σ → Option (Session σ)) {action : Action σ}
    (h : action.Observes) (w : Session σ) :
    ∃ w', perform notify action w = some w' ∧ w'.registry = w.registry ∧
      ∀ id, received id w'.journal = received id w.journal := by
  induction h generalizing w with
  | done => exact ⟨w, rfl, rfl, fun _ => rfl⟩
  | @remember f _ _ ih => exact ih { w with memory := f w.memory }
  | consult _ ih => exact ih w.memory w
  | inspect _ ih => exact ih w.contents w
  | @announce contents _ _ ih =>
    obtain ⟨w', hperform, hregistry, hreceived⟩ := ih (w.note (.serving contents))
    refine ⟨w', hperform, hregistry, fun id => ?_⟩
    rw [hreceived, note, received_append]
    exact List.append_nil _

/-- Each call brings the contents to the listener that is called. -/
theorem callAll_of_observes (notify : Session σ → Option (Session σ))
    {listeners : List (ListenerId × Listener σ)} (h : ∀ attached ∈ listeners, attached.2.Observes)
    (w : Session σ) :
    ∃ w', callAll notify listeners w = some w' ∧ w'.registry = w.registry ∧
      ∀ id, received id w'.journal =
        received id w.journal ++ List.replicate ((listeners.map (·.1)).count id) w.contents := by
  induction listeners generalizing w with
  | nil => exact ⟨w, rfl, rfl, fun _ => (List.append_nil _).symm⟩
  | cons attached rest ih =>
    obtain ⟨called, listener⟩ := attached
    obtain ⟨hlistener, hrest⟩ := List.forall_mem_cons.1 h
    obtain ⟨w₁, hperform, hregistry₁, hreceived₁⟩ :=
      perform_of_observes notify (hlistener w.contents) (w.note (.called called w.contents))
    obtain ⟨w₂, hcall, hregistry₂, hreceived₂⟩ := ih hrest w₁
    have hcontents : w₁.contents = w.contents := congrArg Registry.contents hregistry₁
    refine ⟨w₂, ?_, hregistry₂.trans hregistry₁, fun id => ?_⟩
    · rw [callAll, hperform]
      exact hcall
    · rw [hreceived₂, hreceived₁, note, received_append, hcontents, List.append_assoc,
        List.map_cons, List.count_cons, Nat.add_comm, ← List.replicate_append_replicate]
      by_cases hid : called = id <;> simp [received, hid]

/-- A notification of observers leaves the registry as it is, if reloads may nest at all. -/
theorem registry_of_notify {w w' : Session σ} (h : w.registry.Observed) {depth : Nat}
    (hnotify : w.notify depth = some w') : w'.registry = w.registry := by
  cases depth with
  | zero => cases hnotify
  | succ depth =>
    obtain ⟨called, hcall, hregistry, -⟩ := callAll_of_observes (Session.notify depth) h
      (w.note (.notifying (w.registry.listeners.map (·.1))))
    cases hcall.symm.trans hnotify
    exact hregistry

/-- A notification of observers comes to its end, leaves the registry as it is and brings the
contents to each listener that is attached. -/
theorem notify_of_observed {w : Session σ} (hobserved : w.registry.Observed) (depth : Nat) :
    ∃ w', w.notify (depth + 1) = some w' ∧ w'.registry = w.registry ∧
      ∀ id, received id w'.journal = received id w.journal ++
        List.replicate ((w.registry.listeners.map (·.1)).count id) w.contents := by
  obtain ⟨w', hcall, hregistry, hreceived⟩ := callAll_of_observes (Session.notify depth) hobserved
    (w.note (.notifying (w.registry.listeners.map (·.1))))
  refine ⟨w', hcall, hregistry, fun id => ?_⟩
  have hannounced : received id (w.note (.notifying (w.registry.listeners.map (·.1)))).journal =
      received id w.journal := by
    rw [note, received_append]
    exact List.append_nil _
  rw [hreceived, hannounced]
  rfl

end Session

end HostRegistry
