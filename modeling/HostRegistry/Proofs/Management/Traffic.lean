import HostRegistry.Proofs.Management.Acknowledged
import HostRegistry.Proofs.Management.Sections
import HostRegistry.Proofs.Registry.Observers
import HostRegistry.Proofs.Snapshot.Entries

/-!
# Requests at the same time

Any number of requests are worked on at the same time, while the file is looked at and is changed
from outside. Each step is a section of one request or something that happens to the file. An entry
stays in the registry from step to step, unless its deployment is deregistered or its host reported,
or a look publishes contents without it.
-/

namespace HostRegistry.Management

/-- A service with the requests that it was given, each with what is left to do of it. -/
structure Traffic (σ ι : Type) where
  service : Service σ ι
  tasks : List (Request × Stage)

namespace Traffic

inductive Step
  | arrive (r : Request)
  /-- The next section of a request. -/
  | advance (i : Nat)
  /-- The file is looked at, and contents from outside are published. -/
  | look
  /-- The listeners are called after a reload. -/
  | announce (depth : Nat)
  | outside (files : FileTree) (device : FileTree.Device)

variable {σ ι : Type}

def contents (t : Traffic σ ι) : Snapshot := t.service.session.contents

/-- What follows the step, if there is such a request and no reload nests too deeply. -/
def take (t : Traffic σ ι) : Step → Option (Traffic σ ι)
  | .arrive r => some { t with tasks := t.tasks ++ [(r, t.service.enter r)] }
  | .advance i =>
    t.tasks[i]?.map fun (r, stage) =>
      let (service, stage) := t.service.advance stage
      ⟨service, t.tasks.set i (r, stage)⟩
  | .look =>
    let looked := (t.service.store.publishIfChanged t.service.session).2
    some { t with service := ⟨looked.1, looked.2⟩ }
  | .announce depth =>
    (t.service.session.notify depth).map fun session =>
      { t with service := { t.service with session } }
  | .outside files device =>
    some { t with service := { t.service with store := { t.service.store with files, device } } }

def after (t : Traffic σ ι) (steps : List Step) : Option (Traffic σ ι) := steps.foldlM take t

theorem after_cons (t : Traffic σ ι) (step : Step) (rest : List Step) :
    t.after (step :: rest) = (t.take step).bind (·.after rest) :=
  List.foldlM_cons

theorem after_append (t : Traffic σ ι) (steps steps' : List Step) :
    t.after (steps ++ steps') = (t.after steps).bind (·.after steps') :=
  List.foldlM_append

/-- Where the stage of a request comes from: it stood there before, the request has just arrived, or
one of its sections was worked on. -/
theorem task_of_take {t t' : Traffic σ ι} {step : Step} (h : t.take step = some t') {i : Nat}
    {r : Request} {stage : Stage} (htask : t'.tasks[i]? = some (r, stage)) :
    t.tasks[i]? = some (r, stage) ∨ stage = t.service.enter r ∨
      step = .advance i ∧ ∃ previous, t.tasks[i]? = some (r, previous) ∧
        stage = (t.service.advance previous).2 := by
  cases step with
  | arrive r' =>
    cases h
    rw [List.getElem?_append] at htask
    split at htask
    next => exact .inl htask
    next =>
      obtain ⟨hbound, hlast⟩ := List.getElem?_eq_some_iff.1 htask
      rw [List.getElem_singleton] at hlast
      cases hlast
      exact .inr (.inl rfl)
  | advance j =>
    obtain ⟨⟨r', previous⟩, hprevious, rfl⟩ := Option.map_eq_some_iff.1 h
    rw [List.getElem?_set] at htask
    split at htask
    next hij =>
      subst hij
      split at htask
      · cases htask
        exact .inr (.inr ⟨rfl, previous, hprevious, rfl⟩)
      · cases htask
    next => exact .inl htask
  | look =>
    cases h
    exact .inl htask
  | announce depth =>
    obtain ⟨session, -, rfl⟩ := Option.map_eq_some_iff.1 h
    exact .inl htask
  | outside files device =>
    cases h
    exact .inl htask

/-! ## What steps keep -/

/-- The listeners only observe, and every request is worked on as it asks for. -/
structure Orderly (t : Traffic σ ι) : Prop where
  observed : t.service.session.registry.Observed
  serving : ∀ {i : Nat} {r : Request} {stage : Stage},
    t.tasks[i]? = some (r, stage) → stage.Serves r

theorem listeners_advance (s : Service σ ι) (stage : Stage) :
    (s.advance stage).1.session.registry.listeners = s.session.registry.listeners := by
  cases stage with
  | change c | reply answer | answered response => rfl
  | sweep url =>
    rw [Service.advance]
    generalize hswept : s.session.sweep url = swept
    have hsession := congrArg (·.2.registry.listeners) hswept
    obtain ⟨host, session⟩ := swept
    cases host <;> exact hsession.symm
  | write answer =>
    rw [Service.advance]
    split <;> rfl

theorem listeners_publishIfChanged (st : Store ι) (w : Session σ) :
    (st.publishIfChanged w).2.1.registry.listeners = w.registry.listeners := by
  rcases st.publishIfChanged_cases w with
    ⟨contents, -, -, -, hlook⟩ | ⟨contents, -, -, hlook⟩ | ⟨-, hlook | hlook⟩
  all_goals rw [hlook]
  rfl

theorem Orderly.take {t t' : Traffic σ ι} (h : t.Orderly) {step : Step}
    (htake : t.take step = some t') : t'.Orderly := by
  -- No step attaches or detaches a listener.
  have hlisteners : t'.service.session.registry.listeners =
      t.service.session.registry.listeners := by
    cases step with
    | arrive r =>
      cases htake
      rfl
    | advance i =>
      obtain ⟨⟨r, stage⟩, -, rfl⟩ := Option.map_eq_some_iff.1 htake
      exact listeners_advance t.service stage
    | look =>
      cases htake
      exact listeners_publishIfChanged t.service.store t.service.session
    | announce depth =>
      obtain ⟨session, hnotify, rfl⟩ := Option.map_eq_some_iff.1 htake
      exact congrArg Registry.listeners (Session.registry_of_notify h.observed hnotify)
    | outside files device =>
      cases htake
      rfl
  constructor
  · rw [Registry.Observed, hlisteners]
    exact h.observed
  · intro i r stage htask
    rcases task_of_take htake htask with hstood | rfl | ⟨-, previous, -, rfl⟩
    · exact h.serving hstood
    · exact t.service.serves_enter r
    · exact t.service.serves_advance r previous

/-! ## What takes entries out -/

/-- The step takes the entry out. -/
def Loses (t : Traffic σ ι) (step : Step) (e : Entry) : Prop :=
  e.In t.contents ∧ ∃ t', t.take step = some t' ∧ ¬e.In t'.contents

/-- The step makes the change of a request to deregister a deployment that the entry belongs to, or
the sweep of a report that finds the host of the entry. -/
def Withdraws (t : Traffic σ ι) (e : Entry) : Step → Prop
  | .advance i => ∃ r,
      (∃ info server host, r.resource? = some .remove ∧
        requestedChange r .unregister = .ok (.unregister info server host) ∧
        t.tasks[i]? = some (r, .change (.unregister info server host)) ∧
        e ∈ Entry.ofDeployment info server host) ∨
      ∃ url host, r.resource? = some .unavailable ∧ reportedUrl r = .ok url ∧
        t.tasks[i]? = some (r, .sweep url) ∧
        t.contents.hostOf? url = some host ∧ e.host? = some host
  | _ => False

/-- The step publishes contents from outside that are without the entry. -/
def Overwrites (t : Traffic σ ι) (e : Entry) : Step → Prop
  | .look => ∃ contents,
      t.service.store.files.readSnapshot t.service.store.repository.path = .ok (some contents) ∧
      t.service.store.repository.synced ≠ some contents ∧ ¬e.In contents
  | _ => False

theorem contents_advance_sweep (s : Service σ ι) (url : String) :
    (s.advance (.sweep url)).1.session.contents = (s.session.contents.sweep url).2 := by
  rw [Service.advance, Session.sweep]
  generalize s.session.contents.sweep url = swept
  obtain ⟨host, contents⟩ := swept
  cases host <;> rfl

theorem contents_advance_write (s : Service σ ι) (answer : Snapshot → Response) :
    (s.advance (.write answer)).1.session.contents = s.session.contents := by
  rw [Service.advance]
  split <;> rfl

theorem withdraws_of_loses_advance {t : Traffic σ ι} (h : t.Orderly) {i : Nat} {e : Entry}
    (hloses : t.Loses (.advance i) e) : t.Withdraws e (.advance i) := by
  obtain ⟨hin, t', htake, hnot⟩ := hloses
  obtain ⟨⟨r, stage⟩, htask, rfl⟩ := Option.map_eq_some_iff.1 htake
  have hserves : stage.Serves r := h.serving htask
  cases stage with
  | change c =>
    -- The change is that of the request, and a registration takes nothing out.
    rcases hserves with ⟨-, hrequested⟩ | ⟨hresource, hrequested⟩
    · rcases requestedChange_cases r .register with ⟨_, herror, -⟩ | ⟨info, server, host, hok, -⟩
      · cases hrequested.symm.trans herror
      · cases hrequested.symm.trans hok
        exact (hnot (Entry.in_register_iff.2 (.inr hin))).elim
    · rcases requestedChange_cases r .unregister with ⟨_, herror, -⟩ | ⟨info, server, host, hok, -⟩
      · cases hrequested.symm.trans herror
      · cases hrequested.symm.trans hok
        have hdeployed := (Entry.in_unregister hin).resolve_right hnot
        exact ⟨r, .inl ⟨info, server, host, hresource, hrequested, htask, hdeployed⟩⟩
  | sweep url =>
    have hswept : ¬e.In (t.contents.sweep url).2 := contents_advance_sweep t.service url ▸ hnot
    obtain ⟨host, hfound, hhost⟩ := (Entry.in_sweep hin url).resolve_right hswept
    exact ⟨r, .inr ⟨url, host, hserves.1, hserves.2, htask, hfound, hhost⟩⟩
  | write answer =>
    rw [contents, contents_advance_write] at hnot
    exact (hnot hin).elim
  | reply answer => exact (hnot hin).elim
  | answered response => exact (hnot hin).elim

theorem overwrites_of_loses_look {t : Traffic σ ι} {e : Entry} (hloses : t.Loses .look e) :
    t.Overwrites e .look := by
  obtain ⟨hin, t', htake, hnot⟩ := hloses
  have hlooked : t'.contents =
      (t.service.store.publishIfChanged t.service.session).2.1.contents := by
    cases htake
    rfl
  rw [hlooked] at hnot
  rcases t.service.store.publishIfChanged_cases t.service.session with
    ⟨contents, hread, hsynced, -, hlook⟩ | ⟨contents, -, -, hlook⟩ | ⟨-, hlook | hlook⟩
  · rw [hlook] at hnot
    exact ⟨contents, hread, hsynced, hnot⟩
  all_goals
    rw [hlook] at hnot
    exact (hnot hin).elim

/-- Entries are taken out by requests that are about them, or by contents from outside. -/
theorem cause_of_loses {t : Traffic σ ι} (h : t.Orderly) {step : Step} {e : Entry}
    (hloses : t.Loses step e) : t.Withdraws e step ∨ t.Overwrites e step := by
  cases step with
  | arrive r =>
    obtain ⟨hin, t', htake, hnot⟩ := hloses
    cases htake
    exact (hnot hin).elim
  | advance i => exact .inl (withdraws_of_loses_advance h hloses)
  | look => exact .inr (overwrites_of_loses_look hloses)
  | announce depth =>
    obtain ⟨hin, t', htake, hnot⟩ := hloses
    obtain ⟨session, hnotify, rfl⟩ := Option.map_eq_some_iff.1 htake
    refine (hnot ?_).elim
    rw [contents, Session.contents, Session.registry_of_notify h.observed hnotify]
    exact hin
  | outside files device =>
    obtain ⟨hin, t', htake, hnot⟩ := hloses
    cases htake
    exact (hnot hin).elim

/-- An entry is there still after a run, or a step of the run took it out. -/
theorem in_or_loses_of_after {t t' : Traffic σ ι} (h : t.Orderly) {steps : List Step}
    (hafter : t.after steps = some t') {e : Entry} (hin : e.In t.contents) :
    e.In t'.contents ∨ ∃ front step back t₁, steps = front ++ step :: back ∧
      t.after front = some t₁ ∧ t₁.Loses step e ∧ (t₁.Withdraws e step ∨ t₁.Overwrites e step) := by
  induction steps generalizing t with
  | nil =>
    cases hafter
    exact .inl hin
  | cons step rest ih =>
    rw [after_cons] at hafter
    obtain ⟨t₁, htake, hrest⟩ := Option.bind_eq_some_iff.1 hafter
    by_cases hin₁ : e.In t₁.contents
    · rcases ih (h.take htake) hrest hin₁ with
        hin' | ⟨front, step', back, t₂, hsplit, hfront, hcause⟩
      · exact .inl hin'
      · refine .inr ⟨step :: front, step', back, t₂, congrArg (step :: ·) hsplit, ?_, hcause⟩
        rw [after_cons, htake]
        exact hfront
    · have hloses : t.Loses step e := ⟨hin, t₁, htake, hin₁⟩
      exact .inr ⟨[], step, rest, t, rfl, rfl, hloses, cause_of_loses h hloses⟩

end Traffic

end HostRegistry.Management
