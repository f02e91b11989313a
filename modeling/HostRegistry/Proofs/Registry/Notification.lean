import HostRegistry.Proofs.Registry.Trace

/-!
# Notifications

Whatever listeners do when they are called, a reload calls exactly the listeners that are registered
at that moment, each once, in the order in which they were attached, and shows each the contents
that are in place when its turn comes. Nothing but a reload calls anybody, and an id stands for one
listener only as long as there are ids left.
-/

namespace HostRegistry

variable {σ : Type}

/-! ## The account of a machine -/

/-- The listeners that a frame is still to call. -/
def Frame.due? : Frame σ → Option (List ListenerId)
  | acting _ => none
  | calling listeners => some (listeners.map (·.1))

namespace Account

/-- The account is that of the machine. -/
structure Describes (a : Account) (m : Machine σ) : Prop where
  contents : a.contents = m.session.contents
  registered : a.registered = m.session.registry.listeners.map (·.1)
  next : m.session.registry.nextId = .after a.given.length
  quiet : a.announcing = false
  due : a.due = m.frames.filterMap Frame.due?

theorem hasListener_eq (r : Registry σ) (id : ListenerId) :
    r.hasListener id = decide (id ∈ r.listeners.map (·.1)) := by
  rw [Registry.hasListener, Bool.eq_iff_iff, List.any_eq_true, decide_eq_true_iff, List.mem_map]
  simp only [decide_eq_true_iff]

/-- Each step of a machine shows what its account says may come next. -/
theorem Describes.advance {a : Account} {m m' : Machine σ} {seen : Trace} (h : a.Describes m)
    (hstep : m.advance = some (seen, m')) :
    (∃ a', ReadsAll a seen a' ∧ a'.Describes m') ∧
      m'.session.journal = m.session.journal ++ seen.filterMap Observation.event? := by
  obtain ⟨w, frames⟩ := m
  obtain ⟨contents, registered, given, announcing, due⟩ := a
  obtain ⟨rfl, rfl, hnext, rfl, rfl⟩ := h
  rcases frames with _ | ⟨action | listeners, below⟩
  · cases hstep
  · cases action with
    | done | remember f next | «recall» next | inspect next =>
      cases hstep
      exact ⟨⟨_, .nil, rfl, rfl, hnext, rfl, rfl⟩, (List.append_nil _).symm⟩
    | announce contents next =>
      cases hstep
      exact ⟨⟨_, .concat .nil (.serving rfl contents), rfl, rfl, hnext, rfl, rfl⟩, rfl⟩
    | change c next =>
      cases hstep
      exact ⟨⟨_, .concat .nil (.stored rfl _), rfl, rfl, hnext, rfl, rfl⟩, rfl⟩
    | sweep url next =>
      cases hstep
      exact ⟨⟨_, .concat (.concat .nil (.stored rfl _)) (.swept rfl _),
        rfl, rfl, hnext, rfl, rfl⟩, List.append_assoc _ _ _⟩
    | reload contents next =>
      cases hstep
      exact ⟨⟨_, .concat (.concat .nil (.published rfl contents)) (.notifying rfl),
        rfl, rfl, hnext, rfl, rfl⟩, List.append_assoc _ _ _⟩
    | attach listener next =>
      cases hstep
      refine ⟨⟨_, .concat .nil (.attached rfl hnext),
        rfl, (Registry.ids_attach _ _).symm, ?_, rfl, rfl⟩, (List.append_nil _).symm⟩
      rw [List.length_append, List.length_singleton, ListenerId.after_succ, ← hnext]
      rfl
    | detach id next =>
      cases hstep
      rw [hasListener_eq]
      exact ⟨⟨_, .concat .nil (.detached rfl id),
        rfl, (Registry.ids_detach _ _).symm, hnext, rfl, rfl⟩, (List.append_nil _).symm⟩
  · rcases listeners with _ | ⟨⟨id, listener⟩, rest⟩
    · cases hstep
      exact ⟨⟨_, .concat .nil (.notified rfl rfl), rfl, rfl, hnext, rfl, rfl⟩,
        (List.append_nil _).symm⟩
    · cases hstep
      exact ⟨⟨_, .concat .nil (.called rfl rfl), rfl, rfl, hnext, rfl, rfl⟩, rfl⟩

/-- The account of a whole run, kept from its beginning. -/
theorem describes_of_reaches {contents : Snapshot} {memory : σ} {program : Action σ} {trace : Trace}
    {m : Machine σ}
    (h : Machine.Reaches ⟨⟨.ofSnapshot contents, memory, []⟩, [.acting program]⟩ trace m) :
    (∃ a, ReadsAll (opening contents) trace a ∧ a.Describes m) ∧
      m.session.journal = trace.filterMap Observation.event? := by
  induction h with
  | refl => exact ⟨⟨_, .nil, rfl, rfl, rfl, rfl, rfl⟩, rfl⟩
  | step _ hstep ih =>
    obtain ⟨⟨a, hreads, hdescribes⟩, hjournal⟩ := ih
    obtain ⟨⟨a', hseen, hdescribes'⟩, hnoted⟩ := hdescribes.advance hstep
    refine ⟨⟨a', hreads.append hseen, hdescribes'⟩, ?_⟩
    rw [hnoted, hjournal, List.filterMap_append]

end Account

/-! ## Traces of notifications -/

namespace Trace

/-- What holds of everything that is seen of a registry that begins with the given contents. -/
structure Faithful (initial : Snapshot) (trace : Trace) : Prop where
  /-- A notification is for the listeners registered when it begins, each once. It calls them in
  that order, the first ones while it is open and all of them by the time it ends. -/
  notification : ∀ before ids inside, trace = before ++ .noted (.notifying ids) :: inside →
    ids = registered before ∧ (WithinIds before → ids.Nodup) ∧
      (progress inside).called <+: ids ∧
      ((progress inside).ended = true → (progress inside).called = ids)
  /-- Each reload is followed by its notification. -/
  reload : ∀ before contents after, trace = before ++ .noted (.published contents) :: after →
    ∃ ids inside, after = .noted (.notifying ids) :: inside
  /-- A call is made by the innermost open notification, which a reload began, and brings the
  contents that are in place, which are at least as new as those of that reload. -/
  call : ∀ before id contents after, trace = before ++ .noted (.called id contents) :: after →
    (versions initial trace)[number before]? = some contents ∧
    ∃ outer reloaded ids inside,
      before = outer ++ .noted (.published reloaded) :: .noted (.notifying ids) :: inside ∧
      (progress inside).ended = false ∧ (progress inside).nested = 0 ∧
      (progress inside).called ++ [id] <+: ids ∧
      (versions initial trace)[number outer + 1]? = some reloaded ∧
      number outer + 1 ≤ number before
  /-- Later calls bring no older contents. -/
  order : ∀ before id contents between id' contents' after,
    trace = before ++ .noted (.called id contents) ::
      (between ++ .noted (.called id' contents') :: after) →
    number before ≤ number (before ++ .noted (.called id contents) :: between)
  /-- Ids are given in their order, and none is given twice before all of them were. -/
  given : given trace = (List.range (given trace).length).map .after ∧
    (WithinIds trace → (given trace).Nodup)
  /-- Detaching tells whether the listener was registered. -/
  detached : ∀ before id found after, trace = before ++ .detached id found :: after →
    found = decide (id ∈ registered before)
  detached_once : WithinIds trace → ∀ id, trace.count (.detached id true) ≤ 1

/-- Every notification that began has ended. -/
def Completed (trace : Trace) : Prop :=
  ∀ before ids inside, trace = before ++ .noted (.notifying ids) :: inside →
    (progress inside).ended = true

end Trace

theorem Account.ReadsAll.completed {a a' : Account} {trace : Trace} (h : ReadsAll a trace a')
    (hdue : a'.due = []) : trace.Completed := by
  intro before ids inside htrace
  subst htrace
  obtain ⟨a₁, a₂, -, hseen, hinside⟩ := h.of_cons
  cases hseen with
  | notifying =>
    rcases hinside.progress rfl with ⟨-, inner, rest, hopen, -, -⟩ | ⟨hended, -⟩
    · simp [hdue] at hopen
    · exact hended

theorem Account.ReadsAll.faithful {initial : Snapshot} {trace : Trace} {a : Account}
    (h : ReadsAll (opening initial) trace a) (hquiet : a.announcing = false) :
    trace.Faithful initial where
  notification before ids inside htrace := by
    subst htrace
    obtain ⟨a₁, a₂, hbefore, hseen, hinside⟩ := h.of_cons
    cases hseen with
    | notifying =>
      have hgiven := hbefore.reading.2.1
      refine ⟨hbefore.reading.1, fun hleft => (hbefore.tidy (hgiven ▸ hleft)).distinct, ?_⟩
      rcases hinside.progress rfl with ⟨hopen, inner, rest, -, -, hcalled⟩ | ⟨hended, hcalled⟩
      · refine ⟨⟨rest, hcalled⟩, fun hended => ?_⟩
        cases hopen.symm.trans hended
      · exact ⟨hcalled ▸ List.prefix_rfl, fun _ => hcalled⟩
  reload before contents after htrace := by
    subst htrace
    obtain ⟨a₁, a₂, hbefore, hseen, hafter⟩ := h.of_cons
    cases hseen with
    | published => exact hafter.notifying_of_announcing rfl hquiet
  call before id contents after htrace := by
    subst htrace
    obtain ⟨a₁, a₂, hbefore, hseen, -⟩ := h.of_cons
    cases hseen with
    | @called _ _ rest below hdue =>
      have hcurrent := (Trace.getElem?_versions initial before
        (.noted (.called id a₁.contents) :: after)).trans hbefore.reading.2.2
      refine ⟨hcurrent, ?_⟩
      have hinnermost : a₁.due = [] ++ (id :: rest) :: below := hdue
      obtain ⟨first, ids, inside, rfl, hopen, hnested, hcalled⟩ := hbefore.open_of_due hinnermost
      obtain ⟨a₀, _, hfirst, hbegin, -⟩ := hbefore.of_cons
      cases hbegin with
      | notifying hannouncing =>
        obtain ⟨outer, reloaded, rfl⟩ := hfirst.published_of_announcing hannouncing
        refine ⟨outer, reloaded, _, inside, List.append_assoc _ _ _, hopen, hnested,
          ⟨rest, ?_⟩, ?_, ?_⟩
        · rw [List.append_assoc]
          exact hcalled
        · have hnumber : Trace.number (outer ++ [.noted (.published reloaded)]) =
              Trace.number outer + 1 := Trace.number_append _ _
          rw [← hnumber, List.append_assoc, Trace.getElem?_versions,
            Trace.getLast?_versions_concat]
          rfl
        · rw [Trace.number_append, Trace.number_append]
          exact Nat.le_add_right _ _
  order before id contents between id' contents' after _ := by
    rw [Trace.number_append]
    exact Nat.le_add_right _ _
  given := by
    rw [Trace.WithinIds, ← h.reading.2.1]
    exact ⟨h.given_eq, h.fresh⟩
  detached before id found after htrace := by
    subst htrace
    obtain ⟨a₁, a₂, hbefore, hseen, -⟩ := h.of_cons
    cases hseen
    rw [hbefore.reading.1]
  detached_once hleft id := by
    rw [Trace.WithinIds, ← h.reading.2.1] at hleft
    rcases h.detached_once hleft id with hnone | ⟨hone, -⟩ <;> omega

namespace Machine

/-! ## Runs -/

/-- The runs of a registry that begins with the given contents and without listeners. Everything
that is seen of them is as it should be, ids being given once in the runs that attach no more
listeners than there are ids, and only notifications call anybody. Whole performances are
runs in which every notification ends, and a performance comes to its end just if there is a bound
on how often its runs reload. -/
theorem runs_faithful (contents : Snapshot) (memory : σ) (program : Action σ) :
    let start : Session σ := ⟨.ofSnapshot contents, memory, []⟩
    (∀ trace m, Reaches ⟨start, [.acting program]⟩ trace m →
      trace.Faithful contents ∧
      (m.frames = [] → trace.Completed) ∧
      m.session.journal = trace.filterMap Observation.event? ∧
      m.session.registry.listeners.map (·.1) = trace.registered ∧
      (Trace.versions contents trace).getLast? = some m.session.contents ∧
      ∀ seen m', m.advance = some (seen, m') →
        ∀ id current, .noted (.called id current) ∈ seen → current = m.session.contents ∧
          ∃ listener rest below, m.frames = .calling ((id, listener) :: rest) :: below ∧
            m'.frames = .acting (listener current) :: .calling rest :: below) ∧
    (∀ depth w, Session.perform (Session.notify depth) program start = some w →
      ∃ trace, Reaches ⟨start, [.acting program]⟩ trace ⟨w, []⟩) ∧
    ((∃ depth w, Session.perform (Session.notify depth) program start = some w) ↔
      ∃ bound, Bounded ⟨start, [.acting program]⟩ bound) := by
  refine ⟨fun trace m hrun => ?_, fun depth w h => reaches_of_perform (follows_notify depth) [] h,
    ?_, ?_⟩
  · obtain ⟨⟨a, hreads, hdescribes⟩, hjournal⟩ := Account.describes_of_reaches hrun
    refine ⟨hreads.faithful hdescribes.quiet, fun hend => hreads.completed ?_, hjournal, ?_, ?_,
      fun seen m' hstep id current => ?_⟩
    · rw [hdescribes.due, hend]
      rfl
    · rw [← hdescribes.registered, hreads.reading.1]
    · rw [hreads.reading.2.2, hdescribes.contents]
    · exact calling_of_called hstep
  · rintro ⟨depth, w, h⟩
    obtain ⟨trace, hrun⟩ := reaches_of_perform (follows_notify depth) [] h
    exact ⟨_, bounded_of_reaches hrun rfl⟩
  · rintro ⟨bound, h⟩
    exact ⟨bound, exists_perform_of_bounded h⟩

/-- Reloads when it is called for the first time. -/
def reloadsOnce : Listener Bool := fun _ =>
  .recall fun again =>
    if again then .done else .remember (fun _ => true) (.reload .empty .done)

/-- Takes the first listener away, adds another one and changes the registry. -/
def replacesFirst : Listener Bool := fun _ =>
  .detach 1 fun _ =>
    .attach reloadLogger fun _ => .change (.addContainerHost "c" "http://i") .done

def reentrant : Action Bool :=
  .attach reloadsOnce fun _ =>
    .attach replacesFirst fun _ =>
      .reload (Snapshot.empty.addContainerHost "c" "http://h") (.reload .empty .done)

/-- Whom a journal says to have been called. -/
def calledIds (journal : List Event) : List ListenerId :=
  journal.filterMap fun
    | .called id _ => some id
    | _ => none

/-- The first listener is called by both notifications that began before it was detached, and those
that were attached meanwhile are called by the last one only. -/
theorem runs_faithful_reentrant :
    ∃ (trace : Trace) (m : Machine Bool),
      Reaches ⟨⟨.ofSnapshot .empty, false, []⟩, [.acting reentrant]⟩ trace m ∧ m.frames = [] ∧
        trace.Faithful .empty ∧ trace.Completed ∧
        calledIds m.session.journal = [1, 1, 2, 2, 2, 3, 4] ∧
        trace.given = [1, 2, 3, 4, 5] ∧ trace.given.Nodup ∧
        (∀ id, trace.count (.detached id true) ≤ 1) ∧
        (∃ bound, Bounded ⟨⟨.ofSnapshot .empty, false, []⟩, [.acting reentrant]⟩ bound) ∧
        ∃ w, Session.perform (Session.notify 2) reentrant ⟨.ofSnapshot .empty, false, []⟩ =
            some w ∧ calledIds w.journal = [1, 1, 2, 2, 2, 3, 4] := by
  let start : Machine Bool := ⟨⟨.ofSnapshot .empty, false, []⟩, [.acting reentrant]⟩
  have hrun : Reaches start (run 50 start).1 (run 50 start).2 := reaches_run 50 start
  have hend : (run 50 start).2.frames = [] := List.isEmpty_iff.1 (by decide +kernel)
  have hcalled : calledIds (run 50 start).2.session.journal = [1, 1, 2, 2, 2, 3, 4] := by
    decide +kernel
  have hgiven : (run 50 start).1.given = [1, 2, 3, 4, 5] := by decide +kernel
  have hwhole : (Session.perform (Session.notify 2) reentrant
      ⟨.ofSnapshot .empty, false, []⟩).map (fun w => calledIds w.journal) =
        some [1, 1, 2, 2, 2, 3, 4] := by
    decide +kernel
  obtain ⟨w, hperform, hids⟩ := Option.map_eq_some_iff.1 hwhole
  obtain ⟨hruns, -, hends⟩ := runs_faithful .empty false reentrant
  obtain ⟨hfaithful, hcompleted, -⟩ := hruns _ _ hrun
  have hwithin : (run 50 start).1.WithinIds := by
    rw [Trace.WithinIds, hgiven]
    decide
  exact ⟨_, _, hrun, hend, hfaithful, hcompleted hend, hcalled, hgiven,
    hfaithful.given.2 hwithin, hfaithful.detached_once hwithin, hends.1 ⟨2, w, hperform⟩,
    w, hperform, hids⟩

end Machine

end HostRegistry
