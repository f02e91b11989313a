import HostRegistry.Proofs.Management.Sections
import HostRegistry.Proofs.Snapshot.Built

/-!
# Requests that fail

A request is checked as a whole before anything is changed, so one that is refused leaves the
service as it was. A change that cannot be written stays in the registry, and nothing but missing
directories on the way to the file has come about: no file has other bytes than before, and the
repository remembers what it did.
-/

namespace HostRegistry

/-- A tree that grows gets no file and loses none. -/
theorem FileTree.Grows.file_iff {t t' : FileTree} (h : t.Grows t') (l : Location) (bytes : Bytes) :
    t'.node? l = some (.file bytes) ↔ t.node? l = some (.file bytes) := by
  rcases h.node l with heq | ⟨hnone, hdirectory⟩
  · rw [heq]
  · rw [hnone, hdirectory]
    exact ⟨nofun, nofun⟩

/-- What cannot be persisted leaves the repository as it was, and makes directories at most. -/
theorem Store.grows_of_persist_error {ι : Type} {st : Store ι} {contents : Snapshot}
    (h : (st.persist contents).1 ≠ .ok ()) :
    (st.persist contents).2.repository = st.repository ∧
      st.files.Grows (st.persist contents).2.files := by
  rcases st.persist_cases contents with ⟨hok, -⟩ | ⟨e, cause, -, houtcome, hrepository⟩
  · exact (h hok).elim
  · rw [persist_files]
    exact ⟨hrepository, FileTree.grows_of_replace_error houtcome⟩

namespace Management

/-- What a request asks to be done to the contents, if it passes all checks. -/
def Request.operation? (r : Request) : Option Operation :=
  match r.resource? with
  | some .add => (requestedChange r .register).toOption.map .change
  | some .remove => (requestedChange r .unregister).toOption.map .change
  | some .unavailable => (reportedUrl r).toOption.map .sweep
  | _ => none

theorem Request.operation?_of_add {r : Request} (h : r.resource? = some .add) :
    r.operation? = (requestedChange r .register).toOption.map .change := by
  rw [operation?, h]

theorem Request.operation?_of_remove {r : Request} (h : r.resource? = some .remove) :
    r.operation? = (requestedChange r .unregister).toOption.map .change := by
  rw [operation?, h]

theorem Request.operation?_of_unavailable {r : Request} (h : r.resource? = some .unavailable) :
    r.operation? = (reportedUrl r).toOption.map .sweep := by
  rw [operation?, h]

namespace Service

variable {σ ι : Type}

theorem status_answerId (name part : String) (answer : String → Json.Value) :
    (answerId name part answer).status ≠ 500 := by
  rw [answerId]
  split <;> nofun

theorem status_answerQuery (contents : Snapshot) (resource : Resource) :
    (answerQuery contents resource).status ≠ 500 := by
  cases resource with
  | containerHosts part => exact status_answerId "id" part _
  | serverHosts part => exact status_answerId "id" part _
  | aliasContainers part => exact status_answerId "alias" part _
  | status | list | add | remove | unavailable | health => nofun

theorem status_respond_of_not_isChange {s : Service σ ι} {r : Request}
    (h : ∀ resource ∈ r.resource?, resource.isChange = false) : (s.respond r).1.status ≠ 500 := by
  unfold respond
  split
  · nofun
  next resource hpath =>
    split
    next haccepts =>
      have hquery := h resource (Option.filter_eq_some_iff.2 ⟨hpath, haccepts⟩)
      have hstatus := status_answerQuery s.session.contents resource
      cases resource with
      | add | remove | unavailable => cases hquery
      | status | list | health | containerHosts part | serverHosts part | aliasContainers part =>
        simp only [answer]
        split <;> exact hstatus
    · nofun

/-! ## What a request comes to -/

/-- A change that is asked for is made, unless the request is refused. -/
theorem answerChange_cases (s : Service σ ι) (r : Request)
    (change : ContainerInfo → String → String → Change) :
    ((s.answerChange (requestedChange r change)).2 = s ∧
      (s.answerChange (requestedChange r change)).1.status ≠ 500) ∨
    ∃ c, (requestedChange r change).toOption = some c ∧
      s.answerChange (requestedChange r change) =
        (s.change c).persist fun contents => .json 200 (statusJson contents) := by
  cases hrequested : requestedChange r change with
  | error response =>
    exact .inl ⟨rfl, (status_ne_of_mem_refusals (status_of_requestedChange hrequested)).2⟩
  | ok c => exact .inr ⟨c, rfl, rfl⟩

/-- The answer to a request that changes nothing does not say that something could not be written.
Otherwise the operation that is asked for is carried out, and written unless it is a sweep that
finds no host. -/
theorem respond_cases (s : Service σ ι) (r : Request) :
    ((s.respond r).2 = s ∧ (s.respond r).1.status ≠ 500) ∨
    (∃ c, r.operation? = some (.change c) ∧
      s.respond r = (s.change c).persist fun contents => .json 200 (statusJson contents)) ∨
    ∃ url, r.operation? = some (.sweep url) ∧
      ((∃ host session, s.session.sweep url = (some host, session) ∧
          s.respond r = Service.persist { s with session }
            fun _ => .json 200 (.object [("removed", .text host)])) ∨
        ∃ session, s.session.sweep url = (none, session) ∧
          s.respond r = (.json 200 (.object [("removed", .null)]), { s with session })) := by
  match hresource : r.resource? with
  | some .add =>
    rw [respond_of_resource hresource, r.operation?_of_add hresource, answer]
    rcases s.answerChange_cases r .register with hsame | ⟨c, hc, hchanged⟩
    · exact .inl hsame
    · exact .inr (.inl ⟨c, congrArg _ hc, hchanged⟩)
  | some .remove =>
    rw [respond_of_resource hresource, r.operation?_of_remove hresource, answer]
    rcases s.answerChange_cases r .unregister with hsame | ⟨c, hc, hchanged⟩
    · exact .inl hsame
    · exact .inr (.inl ⟨c, congrArg _ hc, hchanged⟩)
  | some .unavailable =>
    rw [respond_of_resource hresource, r.operation?_of_unavailable hresource, answer]
    cases hreported : reportedUrl r with
    | error response =>
      exact .inl ⟨rfl, (status_ne_of_mem_refusals (status_of_reportedUrl hreported)).2⟩
    | ok url =>
      refine .inr (.inr ⟨url, rfl, ?_⟩)
      rw [answerReport]
      generalize s.session.sweep url = swept
      obtain ⟨host, session⟩ := swept
      cases host with
      | none => exact .inr ⟨session, rfl, rfl⟩
      | some host => exact .inl ⟨host, session, rfl, rfl⟩
  | none | some .status | some .list | some .health | some (.containerHosts _)
  | some (.serverHosts _) | some (.aliasContainers _) =>
    have hquery : ∀ resource ∈ r.resource?, resource.isChange = false := by
      rw [hresource]
      rintro _ ⟨⟩ <;> rfl
    exact .inl ⟨respond_of_not_isChange hquery, status_respond_of_not_isChange hquery⟩

/-- The second service is the first with an operation carried out on its registry and nothing else:
repository and listeners are those of before, and so are the bytes of every file. -/
structure Unwritten (s : Service σ ι) (op : Operation) (after : Service σ ι) : Prop where
  registry : after.session.registry =
    { s.session.registry with contents := op.apply s.session.contents }
  repository : after.store.repository = s.store.repository
  files : ∀ l bytes, after.store.files.node? l = some (.file bytes) ↔
    s.store.files.node? l = some (.file bytes)
  read : ∀ bytes, s.store.files.read s.store.repository.path = .ok bytes →
    after.store.files.read s.store.repository.path = .ok bytes

/-- Contents that are to be written after an operation are written, or the operation is all that
was done. -/
theorem persist_or_unwritten (s : Service σ ι) (op : Operation) (session : Session σ)
    (hsession : session.registry =
      { s.session.registry with contents := op.apply s.session.contents })
    (answer : Snapshot → Response) :
    (Service.persist { s with session } answer).1 = answer session.contents ∨
      (Service.persist { s with session } answer).1.status = 500 ∧
        s.Unwritten op (Service.persist { s with session } answer).2 := by
  obtain ⟨hafter, ⟨-, hanswered⟩ | ⟨hfailed, hstatus⟩⟩ :=
    Service.persist_cases { s with session } answer
  · exact .inl hanswered
  obtain ⟨hrepository, hgrows⟩ := Store.grows_of_persist_error hfailed
  refine .inr ⟨hstatus, ?_⟩
  rw [hafter]
  refine ⟨hsession, hrepository, hgrows.file_iff, fun bytes hread => ?_⟩
  rcases hgrows.read_or s.store.repository.path with hnone | hsame
  · cases hread.symm.trans hnone
  · exact hsame.trans hread

theorem registry_of_sweep {w swept : Session σ} {url : String} {host : Option String}
    (h : w.sweep url = (host, swept)) :
    swept.registry = { w.registry with contents := (w.contents.sweep url).2 } ∧
      (w.contents.sweep url).1 = host := by
  cases h
  exact ⟨rfl, rfl⟩

/-- A sweep that finds no host changes nothing. -/
theorem registry_of_spared {w spared : Session σ} {url : String}
    (h : w.sweep url = (none, spared)) : spared.registry = w.registry := by
  obtain ⟨hregistry, hnone⟩ := registry_of_sweep h
  have hcontents : (w.contents.sweep url).2 = w.contents := by
    rw [Snapshot.sweep] at hnone ⊢
    split
    · rfl
    next host hhost =>
      rw [hhost] at hnone
      cases hnone
  rw [hregistry, hcontents]
  rfl

/-- A request changes nothing, or it succeeds, or its operation could not be written. -/
theorem respond_or_unwritten (s : Service σ ι) (r : Request) :
    ((s.respond r).2 = s ∧ (s.respond r).1.status ≠ 500) ∨ (s.respond r).1.status = 200 ∨
      (s.respond r).1.status = 500 ∧
        ∃ op, r.operation? = some op ∧ s.Unwritten op (s.respond r).2 := by
  rcases s.respond_cases r with
    hsame | ⟨c, hop, hrespond⟩ | ⟨url, hop, ⟨host, session, hsweep, hrespond⟩ | ⟨_, -, hrespond⟩⟩
  · exact .inl hsame
  · rw [hrespond]
    rcases s.persist_or_unwritten (.change c) (s.session.change c) rfl
      (fun contents => .json 200 (statusJson contents)) with hwritten | ⟨hstatus, hunwritten⟩
    · exact .inr (.inl (congrArg Response.status hwritten))
    · exact .inr (.inr ⟨hstatus, _, hop, hunwritten⟩)
  · rw [hrespond]
    rcases s.persist_or_unwritten (.sweep url) session (registry_of_sweep hsweep).1
      (fun _ => .json 200 (.object [("removed", .text host)])) with hwritten | ⟨hstatus, hunwritten⟩
    · exact .inr (.inl (congrArg Response.status hwritten))
    · exact .inr (.inr ⟨hstatus, _, hop, hunwritten⟩)
  · rw [hrespond]
    exact .inr (.inl rfl)

/-- A report that is answered by no host changes neither registry nor store. -/
theorem same_of_spared {s : Service σ ι} {r : Request} (hreport : r.resource? = some .unavailable)
    (hspared : (s.respond r).1 = .json 200 (.object [("removed", .null)])) :
    (s.respond r).2.session.registry = s.session.registry ∧ (s.respond r).2.store = s.store := by
  rcases s.respond_cases r with
    ⟨hsame, -⟩ | ⟨c, hop, -⟩ | ⟨url, hop, ⟨host, session, hsweep, hrespond⟩ |
      ⟨session, hsweep, hrespond⟩⟩
  · rw [hsame]
    exact ⟨rfl, rfl⟩
  · rw [r.operation?_of_unavailable hreport] at hop
    obtain ⟨url, -, hurl⟩ := Option.map_eq_some_iff.1 hop
    cases hurl
  · rw [hrespond] at hspared
    rcases s.persist_or_unwritten (.sweep url) session (registry_of_sweep hsweep).1
      (fun _ => .json 200 (.object [("removed", .text host)])) with hwritten | ⟨hstatus, -⟩
    · exact (compact_removed_ne host (congrArg Response.body (hspared.symm.trans hwritten))).elim
    · cases (congrArg Response.status hspared).symm.trans hstatus
  · rw [hrespond]
    exact ⟨registry_of_spared hsweep, rfl⟩

theorem not_isChange_of_get {r : Request} (h : r.method = "GET") :
    ∀ resource ∈ r.resource?, resource.isChange = false := by
  intro resource hresource
  have haccepts := (Option.filter_eq_some_iff.1 hresource).2
  rw [Resource.accepts, h] at haccepts
  cases hchange : resource.isChange with
  | false => rfl
  | true =>
    rw [hchange] at haccepts
    cases haccepts

/-- A request that is neither answered by success nor by 500 changes nothing at all. One that is
answered by 500 has had its operation carried out on the registry, and no more. Queries and reports
of hosts that nobody knows change neither registry nor store. -/
theorem respond_atomic (s : Service σ ι) (r : Request) :
    ((s.respond r).1.status / 100 ≠ 2 → (s.respond r).1.status ≠ 500 → (s.respond r).2 = s) ∧
    ((s.respond r).1.status = 500 →
      ∃ op, r.operation? = some op ∧ s.Unwritten op (s.respond r).2) ∧
    (r.method = "GET" → (s.respond r).2 = s) ∧
    (r.resource? = some .unavailable →
      (s.respond r).1 = .json 200 (.object [("removed", .null)]) →
      (s.respond r).2.session.registry = s.session.registry ∧ (s.respond r).2.store = s.store) := by
  refine ⟨fun hrefused hstatus => ?_, fun hstatus => ?_,
    fun hget => respond_of_not_isChange (not_isChange_of_get hget), same_of_spared⟩
  · rcases s.respond_or_unwritten r with ⟨hsame, -⟩ | hsuccess | ⟨hfailure, -⟩
    · exact hsame
    · rw [hsuccess] at hrefused
      exact (hrefused rfl).elim
    · exact (hstatus hfailure).elim
  · rcases s.respond_or_unwritten r with ⟨-, hother⟩ | hsuccess | ⟨-, hunwritten⟩
    · exact (hother hstatus).elim
    · cases hstatus.symm.trans hsuccess
    · exact hunwritten

/-- A service with one host whose directory cannot be made, because a file stands in its place. -/
def blockedService : Service Unit Unit where
  session := ⟨.ofSnapshot (Snapshot.empty.addServerHost "s" "http://h"), (), []⟩
  store := {
    repository := .new { dir := "d", fileName := "f" }
    files := FileTree.empty.set ["work", "d"] (.file [])
    device := FileTree.soundDevice
    journal := [] }

/-- Reports that the host at the url is unavailable. -/
def reportOf (url : String) : Request where
  method := "POST"
  target := "/mgmt/unavailable"
  contentType := some "application/json"
  body := Json.compact (Report.toJson ⟨url⟩)

/-- The host is swept although that cannot be written, one that nobody knows is not looked for in
the files, and a report of no host is refused. -/
theorem respond_atomic_blocked :
    ((blockedService.respond (reportOf "http://h/x")).1.status = 500 ∧
      ∃ op, (reportOf "http://h/x").operation? = some op ∧
        blockedService.Unwritten op (blockedService.respond (reportOf "http://h/x")).2) ∧
    (blockedService.respond (reportOf "http://k")).2.store = blockedService.store ∧
    (blockedService.respond (reportOf " ")).2 = blockedService := by
  have hfails : (blockedService.respond (reportOf "http://h/x")).1.status = 500 := by
    decide +kernel
  refine ⟨⟨hfails, (respond_atomic blockedService (reportOf "http://h/x")).2.1 hfails⟩,
    ((respond_atomic blockedService (reportOf "http://k")).2.2.2 ?_ ?_).2,
    (respond_atomic blockedService (reportOf " ")).1 ?_ ?_⟩
  all_goals decide +kernel

end Service

end Management

end HostRegistry
