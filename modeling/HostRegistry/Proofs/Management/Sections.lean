import HostRegistry.Proofs.Management.Requests

/-!
# Requests in sections

Requests are worked on at the same time, and a request that changes the registry does so in
sections that nothing comes between: it makes its change or sweep, it writes the registry to its
file, and it answers. What happens between the sections of a request is up to the others. When
nothing does, the sections together are the whole request.
-/

namespace HostRegistry.Management

/-- The resource that a request is for, if it uses one of its methods. -/
def Request.resource? (r : Request) : Option Resource :=
  (Resource.ofPath? (pathOf r.target)).filter (·.accepts r.method)

/-- What is left to do of a request. -/
inductive Stage
  | change (c : Change)
  | sweep (url : String)
  /-- The registry is to be written, before an answer that may tell of it. -/
  | write (answer : Snapshot → Response)
  | reply (answer : Snapshot → Response)
  | answered (response : Response)

namespace Stage

def ofChange : Except Response Change → Stage
  | .ok c => .change c
  | .error response => .answered response

def ofReport : Except Response String → Stage
  | .ok url => .sweep url
  | .error response => .answered response

def response? : Stage → Option Response
  | .answered response => some response
  | _ => none

theorem response?_eq_some_iff {stage : Stage} {response : Response} :
    stage.response? = some response ↔ stage = .answered response := by
  cases stage <;> simp [response?]

/-- The change or the sweep that is to be made is the one that the request asks for. -/
def Serves (r : Request) : Stage → Prop
  | .change c =>
    r.resource? = some .add ∧ requestedChange r .register = .ok c ∨
      r.resource? = some .remove ∧ requestedChange r .unregister = .ok c
  | .sweep url => r.resource? = some .unavailable ∧ reportedUrl r = .ok url
  | .write _ | .reply _ | .answered _ => True

end Stage

namespace Service

variable {σ ι : Type}

/-- What a request comes to when it is taken in. One that changes nothing is answered at once. -/
def enter (s : Service σ ι) (r : Request) : Stage :=
  match r.resource? with
  | some .add => .ofChange (requestedChange r .register)
  | some .remove => .ofChange (requestedChange r .unregister)
  | some .unavailable => .ofReport (reportedUrl r)
  | _ => .answered (s.respond r).1

/-- The next section of a request, and what is left to do after it. -/
def advance (s : Service σ ι) : Stage → Service σ ι × Stage
  | .change c => (s.change c, .write fun contents => .json 200 (statusJson contents))
  | .sweep url =>
    match s.session.sweep url with
    | (none, session) =>
      ({ s with session }, .answered (.json 200 (.object [("removed", .null)])))
    | (some host, session) =>
      ({ s with session }, .write fun _ => .json 200 (.object [("removed", .text host)]))
  | .write answer =>
    match s.store.persist s.session.contents with
    | (.ok (), store) => ({ s with store }, .reply answer)
    | (.error e, store) =>
      ({ s with store }, .answered (.error 500 s!"Failed to persist registry: {e.message}"))
  | .reply answer => (s, .answered (answer s.session.contents))
  | .answered response => (s, .answered response)

/-- Works on a request for a number of sections, with nothing in between. -/
def work (s : Service σ ι) (stage : Stage) : Nat → Service σ ι × Stage
  | 0 => (s, stage)
  | n + 1 =>
    let (s, stage) := s.advance stage
    s.work stage n

theorem work_answered (s : Service σ ι) (response : Response) (n : Nat) :
    s.work (.answered response) n = (s, .answered response) := by
  induction n with
  | zero => rfl
  | succ n ih => exact ih

theorem work_write (s : Service σ ι) (answer : Snapshot → Response) :
    s.work (.write answer) 2 = ((s.persist answer).2, .answered (s.persist answer).1) := by
  rw [work, advance, persist]
  generalize s.store.persist s.session.contents = persisted
  obtain ⟨outcome, store⟩ := persisted
  cases outcome <;> rfl

theorem work_ofChange (s : Service σ ι) (c : Except Response Change) :
    s.work (.ofChange c) 3 = ((s.answerChange c).2, .answered (s.answerChange c).1) := by
  cases c with
  | error response => exact s.work_answered response 3
  | ok c => exact (s.change c).work_write _

theorem work_ofReport (s : Service σ ι) (url : Except Response String) :
    s.work (.ofReport url) 3 = ((s.answerReport url).2, .answered (s.answerReport url).1) := by
  cases url with
  | error response => exact s.work_answered response 3
  | ok url =>
    rw [Stage.ofReport, work, advance, answerReport]
    generalize s.session.sweep url = swept
    obtain ⟨host, session⟩ := swept
    cases host with
    | none => exact work_answered _ _ 2
    | some host => exact work_write _ _

theorem respond_of_resource {s : Service σ ι} {r : Request} {resource : Resource}
    (h : r.resource? = some resource) : s.respond r = s.answer r resource := by
  obtain ⟨hpath, haccepts⟩ := Option.filter_eq_some_iff.1 h
  unfold respond
  rw [hpath]
  exact if_pos haccepts

/-- A request whose resource is only queried, or that no resource accepts, changes nothing. -/
theorem respond_of_not_isChange {s : Service σ ι} {r : Request}
    (h : ∀ resource ∈ r.resource?, resource.isChange = false) : (s.respond r).2 = s := by
  unfold respond
  split
  · rfl
  next resource hpath =>
    split
    next haccepts =>
      have hresource : r.resource? = some resource :=
        Option.filter_eq_some_iff.2 ⟨hpath, haccepts⟩
      have hquery := h resource hresource
      cases resource <;> first | rfl | cases hquery
    · rfl

/-- The sections of a request, one right after the other, are the request. -/
theorem work_enter (s : Service σ ι) (r : Request) :
    s.work (s.enter r) 3 = ((s.respond r).2, .answered (s.respond r).1) := by
  unfold enter
  split
  next hresource =>
    rw [respond_of_resource hresource]
    exact s.work_ofChange _
  next hresource =>
    rw [respond_of_resource hresource]
    exact s.work_ofChange _
  next hresource =>
    rw [respond_of_resource hresource]
    exact s.work_ofReport _
  next hadd hremove hunavailable =>
    have hsame : (s.respond r).2 = s := by
      refine respond_of_not_isChange fun resource hresource => ?_
      cases resource with
      | add => exact (hadd hresource).elim
      | remove => exact (hremove hresource).elim
      | unavailable => exact (hunavailable hresource).elim
      | _ => rfl
    rw [work_answered, hsame]

theorem serves_enter (s : Service σ ι) (r : Request) : (s.enter r).Serves r := by
  unfold enter
  split
  next hresource =>
    cases hchange : requestedChange r .register with
    | error response => trivial
    | ok c => exact .inl ⟨hresource, hchange⟩
  next hresource =>
    cases hchange : requestedChange r .unregister with
    | error response => trivial
    | ok c => exact .inr ⟨hresource, hchange⟩
  next hresource =>
    cases hurl : reportedUrl r with
    | error response => trivial
    | ok url => exact ⟨hresource, hurl⟩
  next => trivial

/-- No section asks for another change or sweep. -/
theorem serves_advance (s : Service σ ι) (r : Request) (stage : Stage) :
    (s.advance stage).2.Serves r := by
  cases stage with
  | change c | reply answer | answered response => trivial
  | sweep url =>
    rw [advance]
    split <;> trivial
  | write answer =>
    rw [advance]
    split <;> trivial

end Service

end HostRegistry.Management
