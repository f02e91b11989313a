import HostRegistry.Management
import HostRegistry.Proofs.Repository.Operations
import HostRegistry.Proofs.Snapshot.Loadable

/-!
# What a request does

A request changes nothing, or it registers or deregisters a loadable info on a server with a name,
or it sweeps. What was changed is persisted, and the answer is 200 only if that succeeded.
-/

namespace HostRegistry.Management

/-! ## Bodies -/

theorem blankField?_eq_none_iff {fields : List (String × String)} :
    blankField? fields = none ↔ ∀ field ∈ fields, Text.isBlank field.2 = false := by
  rw [blankField?, Option.map_eq_none_iff, List.find?_eq_none]
  simp only [Bool.not_eq_true]

/-- What is taken in can be loaded again. -/
theorem Registration.loadable_info {r : Registration} {info : ContainerInfo}
    (h : r.info = .ok info) : info.Loadable ∧ Text.isBlank r.serverId = false := by
  rw [Registration.info] at h
  split at h
  · cases h
  next hfields =>
    have hblank := blankField?_eq_none_iff.1 hfields
    have hid : Text.isBlank r.containerId = false := hblank ("containerId", r.containerId) (by simp)
    have hserver : Text.isBlank r.serverId = false := hblank ("serverId", r.serverId) (by simp)
    split at h
    · cases h
    next release hrelease =>
      have hproper := Release.proper_of_ofText hrelease
      split at h
      · cases h
        exact ⟨⟨hid, (hproper .artifact (by simp)).1, hproper⟩, hserver⟩
      next halias =>
        cases h
        exact ⟨⟨hid, eq_false_of_ne_true halias, hproper⟩, hserver⟩

/-- The statuses of the answers to requests that are at fault. -/
def refusals : List Nat := [400, 413, 415, 422]

/-- An answer that blames the request tells neither of success nor of a failure to write. -/
theorem status_ne_of_mem_refusals {response : Response} (h : response.status ∈ refusals) :
    response.status ≠ 200 ∧ response.status ≠ 500 := by
  constructor
  all_goals
    intro hstatus
    rw [hstatus] at h
    revert h
    decide

theorem status_of_mapError {ε α : Type} {answer : ε → Response}
    (hanswer : ∀ cause, (answer cause).status ∈ refusals) {checked : Except ε α}
    {response : Response} (h : checked.mapError answer = .error response) :
    response.status ∈ refusals := by
  cases checked with
  | error cause =>
    cases h
    exact hanswer cause
  | ok a => cases h

theorem status_unreadable (fault : Json.Fault) : (unreadable fault).status ∈ refusals := by
  cases fault with
  | truncated | malformed => exact .head _
  | shape path mismatch => exact .tail _ (.tail _ (.tail _ (.head _)))

theorem status_refused (cause : Refusal) : (refused cause).status ∈ refusals := .head _

/-- A body that cannot be read is answered by an error. -/
theorem status_of_readBody {ρ α : Type} {struct : Json.Struct ρ α} {r : Request}
    {response : Response} (h : readBody struct r = .error response) :
    response.status ∈ refusals := by
  rw [readBody] at h
  split at h
  · cases h
    exact .tail _ (.tail _ (.head _))
  split at h
  · cases h
    exact .tail _ (.head _)
  · exact status_of_mapError status_unreadable h

/-- A change that is asked for is refused, or it is about a loadable info and a server with a
name. -/
theorem requestedChange_cases (r : Request) (change : ContainerInfo → String → String → Change) :
    (∃ response, requestedChange r change = .error response ∧ response.status ∈ refusals) ∨
    ∃ info server host, requestedChange r change = .ok (change info server host) ∧
      info.Loadable ∧ Text.isBlank server = false := by
  rw [requestedChange]
  cases hbody : readBody Registration.struct r with
  | error response => exact .inl ⟨response, rfl, status_of_readBody hbody⟩
  | ok registration =>
    simp only [bind, Except.bind]
    cases hinfo : registration.info with
    | error cause => exact .inl ⟨refused cause, rfl, status_refused cause⟩
    | ok info =>
      obtain ⟨hloadable, hserver⟩ := Registration.loadable_info hinfo
      exact .inr ⟨info, _, _, rfl, hloadable, hserver⟩

theorem status_of_requestedChange {r : Request} {response : Response}
    {change : ContainerInfo → String → String → Change}
    (h : requestedChange r change = .error response) : response.status ∈ refusals := by
  rcases requestedChange_cases r change with ⟨response', h', hstatus⟩ | ⟨_, _, _, h', -⟩
  · cases h.symm.trans h'
    exact hstatus
  · cases h.symm.trans h'

theorem status_of_reportedUrl {r : Request} {response : Response}
    (h : reportedUrl r = .error response) : response.status ∈ refusals := by
  rw [reportedUrl] at h
  cases hbody : readBody Report.struct r with
  | error response' =>
    rw [hbody] at h
    cases h
    exact status_of_readBody hbody
  | ok report =>
    rw [hbody] at h
    exact status_of_mapError status_refused h

/-! ## Answers -/

namespace Service

variable {σ ι : Type}

/-- Persisting changes the store alone, and answers 500 if it fails. -/
theorem persist_cases (s : Service σ ι) (answer : Snapshot → Response) :
    (s.persist answer).2 = { s with store := (s.store.persist s.session.contents).2 } ∧
    ((s.store.persist s.session.contents).1 = .ok () ∧
        (s.persist answer).1 = answer s.session.contents ∨
      (s.store.persist s.session.contents).1 ≠ .ok () ∧
        (s.persist answer).1.status = 500) := by
  unfold persist
  generalize s.store.persist s.session.contents = persisted
  obtain ⟨outcome, store⟩ := persisted
  cases outcome with
  | ok _ => exact ⟨rfl, .inl ⟨rfl, rfl⟩⟩
  | error e => exact ⟨rfl, .inr ⟨nofun, rfl⟩⟩

/-- What a request does before its answer: nothing, a change, or a sweep. -/
inductive Effect (s : Service σ ι) : Response × Service σ ι → Prop
  | none (response : Response) : Effect s (response, s)
  | register {info : ContainerInfo} {server : String} (host : String) (loadable : info.Loadable)
      (named : Text.isBlank server = false) (answer : Snapshot → Response) :
      Effect s ((s.change (.register info server host)).persist answer)
  | unregister (info : ContainerInfo) (server host : String) (answer : Snapshot → Response) :
      Effect s ((s.change (.unregister info server host)).persist answer)
  | sweep {url host : String} {session : Session σ}
      (swept : s.session.sweep url = (some host, session)) :
      Effect s (Service.persist { s with session }
        fun _ => .json 200 (.object [("removed", .text host)]))
  | spare {url : String} {session : Session σ}
      (spared : s.session.sweep url = (Option.none, session)) :
      Effect s (.json 200 (.object [("removed", .null)]), { s with session })

theorem effect_answerReport (s : Service σ ι) (url : Except Response String) :
    Effect s (s.answerReport url) := by
  cases url with
  | error response => exact .none response
  | ok url =>
    rw [answerReport]
    generalize hswept : s.session.sweep url = swept
    obtain ⟨host, session⟩ := swept
    cases host with
    | none => exact .spare hswept
    | some host => exact .sweep hswept

theorem effect_register (s : Service σ ι) (r : Request) :
    Effect s (s.answerChange (requestedChange r .register)) := by
  rcases requestedChange_cases r .register with
    ⟨response, hchange, -⟩ | ⟨info, server, host, hchange, hloadable, hserver⟩
  · rw [hchange]
    exact .none response
  · rw [hchange, answerChange]
    exact .register host hloadable hserver _

theorem effect_unregister (s : Service σ ι) (r : Request) :
    Effect s (s.answerChange (requestedChange r .unregister)) := by
  rcases requestedChange_cases r .unregister with
    ⟨response, hchange, -⟩ | ⟨info, server, host, hchange, -, -⟩
  · rw [hchange]
    exact .none response
  · rw [hchange, answerChange]
    exact .unregister info server host _

theorem effect_respond (s : Service σ ι) (r : Request) : Effect s (s.respond r) := by
  rw [respond]
  split
  · exact .none _
  next resource _ =>
    split
    · cases resource with
      | add => exact effect_register s r
      | remove => exact effect_unregister s r
      | unavailable => exact effect_answerReport s (reportedUrl r)
      | status | list | health | containerHosts part | serverHosts part | aliasContainers part =>
        exact .none _
    · exact .none _

/-! ## Acknowledgements -/

/-- The answer to the request says that a change of the registry was made and written. -/
def Acknowledges (r : Request) (response : Response) : Prop :=
  response.status = 200 ∧
    (Resource.ofPath? (pathOf r.target) = some .add ∨
      Resource.ofPath? (pathOf r.target) = some .remove ∨
      Resource.ofPath? (pathOf r.target) = some .unavailable ∧
        ∃ host, response.body = Json.compact (.object [("removed", .text host)]))

theorem compact_removed_ne (host : String) :
    Json.compact (.object [("removed", .null)]) ≠
      Json.compact (.object [("removed", .text host)]) := by
  intro h
  simp only [Json.compact, Json.compactMembers, List.cons.injEq, true_and,
    List.append_cancel_right_eq, List.append_cancel_left_eq, Json.quoted] at h
  have hhead := congrArg List.head? h
  revert hhead
  simp
  decide

/-- The contents of the session are in the file, and the store is the one after that. -/
def Persisted (st : Store ι) (s : Service σ ι) : Prop :=
  (st.persist s.session.contents).1 = .ok () ∧ s.store = (st.persist s.session.contents).2

theorem persisted_of_persist {s : Service σ ι} {answer : Snapshot → Response}
    (h : (s.persist answer).1.status = 200) : Persisted s.store (s.persist answer).2 := by
  obtain ⟨hservice, ⟨hok, -⟩ | ⟨-, hstatus⟩⟩ := s.persist_cases answer
  · rw [hservice]
    exact ⟨hok, rfl⟩
  · cases hstatus.symm.trans h

theorem persisted_of_answerChange {s : Service σ ι} {c : Except Response Change}
    (herror : ∀ {response}, c = .error response → response.status ∈ refusals)
    (h : (s.answerChange c).1.status = 200) : Persisted s.store (s.answerChange c).2 := by
  cases c with
  | error response =>
    rw [answerChange] at h
    exact ((status_ne_of_mem_refusals (herror rfl)).1 h).elim
  | ok c =>
    rw [answerChange] at h ⊢
    have hpersisted := persisted_of_persist h
    exact hpersisted

theorem persisted_of_answerReport {s : Service σ ι} {url : Except Response String}
    (herror : ∀ {response}, url = .error response → response.status ∈ refusals)
    (h : (s.answerReport url).1.status = 200) {host : String}
    (hbody : (s.answerReport url).1.body = Json.compact (.object [("removed", .text host)])) :
    Persisted s.store (s.answerReport url).2 := by
  cases url with
  | error response =>
    rw [answerReport] at h
    exact ((status_ne_of_mem_refusals (herror rfl)).1 h).elim
  | ok url =>
    rw [answerReport] at h hbody ⊢
    generalize s.session.sweep url = swept at h hbody ⊢
    obtain ⟨swept, session⟩ := swept
    cases swept with
    | none => exact (compact_removed_ne host hbody).elim
    | some host =>
      have hpersisted := persisted_of_persist h
      exact hpersisted

/-- What is acknowledged was persisted. -/
theorem persisted_of_acknowledges {s : Service σ ι} {r : Request}
    (h : Acknowledges r (s.respond r).1) : Persisted s.store (s.respond r).2 := by
  obtain ⟨hstatus, hpath⟩ := h
  have hmethod : ∀ {resource : Resource}, Resource.ofPath? (pathOf r.target) = some resource →
      s.respond r = s.answer r resource := by
    intro resource hresource
    simp only [respond, hresource] at hstatus ⊢
    split at hstatus
    next haccepts => rw [if_pos haccepts]
    · cases hstatus
  rcases hpath with hadd | hremove | ⟨hreport, host, hbody⟩
  · rw [hmethod hadd] at hstatus ⊢
    exact persisted_of_answerChange status_of_requestedChange hstatus
  · rw [hmethod hremove] at hstatus ⊢
    exact persisted_of_answerChange status_of_requestedChange hstatus
  · rw [hmethod hreport] at hstatus hbody ⊢
    exact persisted_of_answerReport status_of_reportedUrl hstatus hbody

end Service

end HostRegistry.Management
