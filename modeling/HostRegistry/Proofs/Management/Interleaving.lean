import HostRegistry.Proofs.Management.Traffic
import HostRegistry.Proofs.Repository.Quiet
import Mathlib.Data.List.Induction

/-!
# Acknowledged registrations among other requests

A registration that is acknowledged made its change in one section and wrote the registry in a later
one; what was written is what the registry held by then. So an entry of the registration is in the
file, unless something took it out in between. Contents from outside can do that, and then the
registration is acknowledged although nothing of it was written.
-/

namespace HostRegistry.Management.Traffic

variable {σ ι : Type}

/-! ## How far a registration is -/

/-- After the first steps the change is made that the request asks for. -/
def MakesChange (start : Traffic σ ι) (i : Nat) (r : Request) (before : List Step)
    (c : Change) : Prop :=
  requestedChange r .register = .ok c ∧
    ∃ t, start.after before = some t ∧ t.tasks[i]? = some (r, .change c)

/-- After the first steps the contents of the registry are written for the request. -/
def Writes (start : Traffic σ ι) (i : Nat) (r : Request) (before : List Step)
    (contents : Snapshot) : Prop :=
  ∃ t answer, start.after before = some t ∧ t.tasks[i]? = some (r, .write answer) ∧
    t.contents = contents ∧ (t.service.store.persist contents).1 = .ok ()

/-- One of the steps made the change. -/
def Changed (start : Traffic σ ι) (i : Nat) (r : Request) (steps : List Step) : Prop :=
  ∃ before between c, steps = before ++ .advance i :: between ∧ start.MakesChange i r before c

/-- One of the steps made the change, and a later one wrote the registry. -/
def Written (start : Traffic σ ι) (i : Nat) (r : Request) (steps : List Step) : Prop :=
  ∃ before between rest c contents,
    steps = before ++ .advance i :: (between ++ .advance i :: rest) ∧
    start.MakesChange i r before c ∧ start.Writes i r (before ++ .advance i :: between) contents

variable {start t : Traffic σ ι} {i : Nat} {r : Request} {steps : List Step}

theorem Changed.append (h : start.Changed i r steps) (step : Step) :
    start.Changed i r (steps ++ [step]) := by
  obtain ⟨before, between, c, rfl, hchange⟩ := h
  exact ⟨before, between ++ [step], c, List.append_assoc _ _ _, hchange⟩

theorem Written.append (h : start.Written i r steps) (step : Step) :
    start.Written i r (steps ++ [step]) := by
  obtain ⟨before, between, rest, c, contents, rfl, hchange, hwrite⟩ := h
  refine ⟨before, between, rest ++ [step], c, contents, ?_, hchange, hwrite⟩
  simp only [List.append_assoc, List.cons_append]

theorem Changed.write (h : start.Changed i r steps) {contents : Snapshot}
    (hwrite : start.Writes i r steps contents) : start.Written i r (steps ++ [.advance i]) := by
  obtain ⟨before, between, c, rfl, hchange⟩ := h
  refine ⟨before, between, [], c, contents, ?_, hchange, hwrite⟩
  simp only [List.append_assoc, List.cons_append]

/-- What the steps have done by the time that a registration has come to a stage. -/
def Done (start : Traffic σ ι) (i : Nat) (r : Request) (steps : List Step) : Stage → Prop
  | .change _ | .sweep _ => True
  | .write _ => start.Changed i r steps
  | .reply _ => start.Written i r steps
  | .answered response => response.status = 200 → start.Written i r steps

theorem Done.append {stage : Stage} (h : start.Done i r steps stage) (step : Step) :
    start.Done i r (steps ++ [step]) stage := by
  cases stage with
  | change c | sweep url => trivial
  | write answer => exact Changed.append h step
  | reply answer => exact Written.append h step
  | answered response => exact fun hstatus => (h hstatus).append step

/-- A registration that has just arrived is not answered 200. -/
theorem done_enter (hadd : Resource.ofPath? (pathOf r.target) = some .add) (s : Service σ ι) :
    start.Done i r steps (s.enter r) := by
  unfold Service.enter
  split
  next =>
    cases hchange : requestedChange r .register with
    | error response =>
      exact fun hstatus =>
        ((status_ne_of_mem_refusals (status_of_requestedChange hchange)).1 hstatus).elim
    | ok c => trivial
  next hremove => cases hadd.symm.trans (Option.filter_eq_some_iff.1 hremove).1
  next hunavailable => cases hadd.symm.trans (Option.filter_eq_some_iff.1 hunavailable).1
  next hnot _ _ =>
    intro hstatus
    have hrefused : ¬(Resource.add.accepts r.method) = true := fun haccepts =>
      hnot (Option.filter_eq_some_iff.2 ⟨hadd, haccepts⟩)
    unfold Service.respond at hstatus
    rw [hadd] at hstatus
    simp only [if_neg hrefused] at hstatus
    cases hstatus

/-- The next section of a registration. -/
theorem done_advance (hadd : Resource.ofPath? (pathOf r.target) = some .add)
    (hafter : start.after steps = some t) (horderly : t.Orderly) {stage : Stage}
    (htask : t.tasks[i]? = some (r, stage)) (hdone : start.Done i r steps stage) :
    start.Done i r (steps ++ [.advance i]) (t.service.advance stage).2 := by
  have hserves : stage.Serves r := horderly.serving htask
  cases stage with
  | change c =>
    rcases hserves with ⟨-, hrequested⟩ | ⟨hremove, -⟩
    · exact ⟨steps, [], c, rfl, hrequested, t, hafter, htask⟩
    · cases hadd.symm.trans (Option.filter_eq_some_iff.1 hremove).1
  | sweep url => cases hadd.symm.trans (Option.filter_eq_some_iff.1 hserves.1).1
  | write answer =>
    rw [Service.advance]
    split
    next store hpersist =>
      have hok : (t.service.store.persist t.contents).1 = .ok () := congrArg Prod.fst hpersist
      exact Changed.write hdone ⟨t, answer, hafter, htask, rfl, hok⟩
    next =>
      intro hstatus
      cases hstatus
  | reply answer => exact fun _ => Written.append hdone _
  | answered response => exact fun hstatus => (hdone hstatus).append _

theorem orderly_of_after (hstart : start.Orderly) (hafter : start.after steps = some t) :
    t.Orderly := by
  induction steps generalizing start with
  | nil =>
    cases hafter
    exact hstart
  | cons step rest ih =>
    rw [after_cons] at hafter
    obtain ⟨t₁, htake, hrest⟩ := Option.bind_eq_some_iff.1 hafter
    exact ih (hstart.take htake) hrest

/-- The steps are taken one after the other, and the last of them is looked at first. -/
theorem done_of_after (hstart : start.Orderly) (hnone : start.tasks = [])
    (hadd : Resource.ofPath? (pathOf r.target) = some .add) (hafter : start.after steps = some t)
    {stage : Stage} (htask : t.tasks[i]? = some (r, stage)) : start.Done i r steps stage := by
  induction steps using List.reverseRecOn generalizing t stage with
  | nil =>
    cases hafter
    rw [hnone] at htask
    cases htask
  | append_singleton front last ih =>
    rw [after_append] at hafter
    obtain ⟨t₁, hfront, hlast⟩ := Option.bind_eq_some_iff.1 hafter
    rw [after_cons] at hlast
    obtain ⟨t₂, htake, hnil⟩ := Option.bind_eq_some_iff.1 hlast
    cases hnil
    rcases task_of_take htake htask with hstood | rfl | ⟨rfl, previous, hprevious, rfl⟩
    · exact (ih hfront hstood).append last
    · exact done_enter hadd t₁.service
    · exact done_advance hadd hfront (orderly_of_after hstart hfront) hprevious
        (ih hfront hprevious)

/-- From the change of a registration on, each of its entries is there, or a step took it out. -/
theorem in_or_loses_of_makesChange (hstart : start.Orderly) {before between : List Step}
    {info : ContainerInfo} {server host : String}
    (hchange : start.MakesChange i r before (.register info server host))
    (hafter : start.after (before ++ .advance i :: between) = some t) {e : Entry}
    (he : e ∈ Entry.ofDeployment info server host) :
    e.In t.contents ∨ ∃ front step back t₁, between = front ++ step :: back ∧
      start.after (before ++ .advance i :: front) = some t₁ ∧
      t₁.Loses step e ∧ (t₁.Withdraws e step ∨ t₁.Overwrites e step) := by
  obtain ⟨-, t₀, hbefore, htask⟩ := hchange
  obtain ⟨changed, htake, hin⟩ :
      ∃ changed, t₀.take (.advance i) = some changed ∧ e.In changed.contents := by
    refine ⟨_, congrArg (Option.map _) htask, ?_⟩
    exact Entry.in_register_iff.2 (.inl he)
  have hadvanced : ∀ more : List Step,
      start.after (before ++ .advance i :: more) = changed.after more := by
    intro more
    rw [after_append, hbefore, Option.bind_some, after_cons, htake, Option.bind_some]
  have horderly : changed.Orderly := (orderly_of_after hstart hbefore).take htake
  rw [hadvanced] at hafter
  rcases in_or_loses_of_after horderly hafter hin with
    hstill | ⟨front, step, back, t₁, hbetween, hfront, hloses, hcause⟩
  · exact .inl hstill
  · refine .inr ⟨front, step, back, t₁, hbetween, ?_, hloses, hcause⟩
    rw [hadvanced]
    exact hfront

/-- A service that was just opened, before any request. -/
def opened (session : Session σ) (st : Store ι) : Traffic σ ι := ⟨⟨session, st⟩, []⟩

theorem orderly_opened {st st' : Store ι} {name : ι} {memory : σ} {session : Session σ}
    (h : openRegistry st name memory = (.ok session, st')) : (opened session st').Orderly := by
  refine ⟨fun attached hattached => ?_, nofun⟩
  rw [(Store.sound_of_openRegistry h).announcing attached hattached]
  exact observes_reloadLogger

/-- A registration that is answered 200 made its change in one section and wrote the registry in a
later one. Each of its entries is among the contents that were written, or a step in between took it
out: the change of a request to deregister its deployment, the sweep of a report about its host, or a
look that published contents from outside without it. -/
theorem written_of_answered {st st' : Store ι} {name : ι} {memory : σ} {session : Session σ}
    (hopened : openRegistry st name memory = (.ok session, st'))
    (hafter : (opened session st').after steps = some t) {response : Response}
    (htask : t.tasks[i]? = some (r, .answered response))
    (hadd : Resource.ofPath? (pathOf r.target) = some .add) (hstatus : response.status = 200) :
    ∃ info server host before between rest contents,
      steps = before ++ .advance i :: (between ++ .advance i :: rest) ∧
      (opened session st').MakesChange i r before (.register info server host) ∧
      (opened session st').Writes i r (before ++ .advance i :: between) contents ∧
      ∀ e ∈ Entry.ofDeployment info server host, e.In contents ∨
        ∃ front step back t₁, between = front ++ step :: back ∧
          (opened session st').after (before ++ .advance i :: front) = some t₁ ∧
          t₁.Loses step e ∧ (t₁.Withdraws e step ∨ t₁.Overwrites e step) := by
  have horderly := orderly_opened hopened
  obtain ⟨before, between, rest, c, contents, hsplit, hchange, hwrite⟩ :=
    done_of_after horderly rfl hadd hafter htask hstatus
  obtain ⟨info, server, host, rfl⟩ : ∃ info server host, c = .register info server host := by
    rcases requestedChange_cases r .register with ⟨_, herror, -⟩ | ⟨info, server, host, hok, -⟩
    · cases hchange.1.symm.trans herror
    · cases hchange.1.symm.trans hok
      exact ⟨info, server, host, rfl⟩
  refine ⟨info, server, host, before, between, rest, contents, hsplit, hchange, hwrite,
    fun e he => ?_⟩
  obtain ⟨t₁, answer, hwriting, -, rfl, -⟩ := hwrite
  exact in_or_loses_of_makesChange horderly hchange hwriting he

/-- A service that follows a file that is not there yet. -/
def plainService : Service Unit Unit :=
  ⟨⟨(Registry.ofSnapshot .empty).attach reloadLogger, (), []⟩, (Following.plainStore.load ()).2⟩

theorem openRegistry_plainStore :
    openRegistry Following.plainStore () () =
      (.ok plainService.session, plainService.store) := rfl

def plain : Traffic Unit Unit := opened plainService.session plainService.store

/-- The status that the first request was answered with after the steps. -/
def firstStatus? (steps : List Step) : Option (Request × Option Nat) := do
  let t ← plain.after steps
  let (r, stage) ← t.tasks[0]?
  pure (r, stage.response?.map (·.status))

theorem answered_of_firstStatus? (steps : List Step) (r : Request) (status : Nat)
    (h : firstStatus? steps = some (r, some status)) :
    ∃ t response, plain.after steps = some t ∧ t.tasks[0]? = some (r, .answered response) ∧
      response.status = status := by
  simp only [firstStatus?, Option.bind_eq_bind, Option.bind_eq_some_iff, Option.pure_def,
    Option.some.injEq, Prod.mk.injEq, Option.map_eq_some_iff, Stage.response?_eq_some_iff] at h
  obtain ⟨t, hafter, ⟨r', stage⟩, htask, rfl, response, rfl, hstatus⟩ := h
  exact ⟨t, response, hafter, htask, hstatus⟩

/-- The file is looked at between the sections of a registration. -/
def lookedBetween : List Step :=
  [.arrive Service.registerC, .advance 0, .look, .advance 0, .advance 0]

theorem written_lookedBetween :
    (∃ t response, plain.after lookedBetween = some t ∧
      t.tasks[0]? = some (Service.registerC, .answered response) ∧ response.status = 200) ∧
    plain.Written 0 Service.registerC lookedBetween := by
  obtain ⟨t, response, hafter, htask, hstatus⟩ :=
    answered_of_firstStatus? lookedBetween Service.registerC 200 (by decide +kernel)
  refine ⟨⟨t, response, hafter, htask, hstatus⟩, ?_⟩
  obtain ⟨info, server, host, before, between, rest, contents, hsplit, hchange, hwrite, -⟩ :=
    written_of_answered openRegistry_plainStore hafter htask (by decide) hstatus
  exact ⟨before, between, rest, _, contents, hsplit, hchange, hwrite⟩

/-- The file is written from outside and looked at between the change of a registration and its
write. -/
def overwriting : List Step :=
  [.outside (FileTree.empty.set ["work", "f.json"] (.file (Record.ofSnapshot .empty).toBytes))
    FileTree.soundDevice, .look]

/-- The look replaces the registry by what the file holds, and that is what is written back. The
registration is acknowledged, and none of it is left. -/
theorem not_written_overwriting :
    openRegistry Following.plainStore () () =
      (.ok plainService.session, plainService.store) ∧
    ∃ t₁ t₂ t response,
      plain.after [.arrive Service.registerC, .advance 0] = some t₁ ∧
      t₁.contents.hostsOfContainer "c" = ["http://h"] ∧
      t₁.after overwriting = some t₂ ∧ t₂.contents = .empty ∧
      (t₂.service.store.persist t₂.contents).1.isOk = true ∧
      t₂.after [.advance 0, .advance 0] = some t ∧
      t.tasks[0]? = some (Service.registerC, .answered response) ∧ response.status = 200 := by
  obtain ⟨t, response, hafter, htask, hstatus⟩ :=
    answered_of_firstStatus?
      ([.arrive Service.registerC, .advance 0] ++ (overwriting ++ [.advance 0, .advance 0]))
      Service.registerC 200 (by decide +kernel)
  rw [after_append] at hafter
  obtain ⟨t₁, hchanged, hrest⟩ := Option.bind_eq_some_iff.1 hafter
  rw [after_append] at hrest
  obtain ⟨t₂, hlooked, hlast⟩ := Option.bind_eq_some_iff.1 hrest
  have hcontents₁ : (plain.after [.arrive Service.registerC, .advance 0]).map
      (·.contents.hostsOfContainer "c") = some ["http://h"] := by
    decide +kernel
  have hcontents₂ : (plain.after ([.arrive Service.registerC, .advance 0] ++ overwriting)).map
      (fun t => (t.contents, (t.service.store.persist t.contents).1.isOk)) =
        some (.empty, true) := by
    decide +kernel
  rw [hchanged, Option.map_some, Option.some.injEq] at hcontents₁
  rw [after_append, hchanged, Option.bind_some, hlooked, Option.map_some, Option.some.injEq,
    Prod.mk.injEq] at hcontents₂
  exact ⟨openRegistry_plainStore, t₁, t₂, t, response, hchanged, hcontents₁, hlooked,
    hcontents₂.1, hcontents₂.2, hlast, htask, hstatus⟩

end HostRegistry.Management.Traffic
