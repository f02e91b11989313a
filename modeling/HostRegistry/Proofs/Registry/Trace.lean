import HostRegistry.Proofs.Registry.Machine
import Mathlib.Data.List.Induction
import Mathlib.Data.List.Nodup

/-!
# What a trace must look like

An account of a registry is kept from its trace alone, without a look at the listeners' actions. It
says which observation may come next: a reload is followed by a notification of the listeners that
are registered then, the innermost notification calls the next of its listeners, with the contents
that are current, and ends when all of them were called, and ids are given in their order. So no id
is given twice before all of them were given.
-/

namespace HostRegistry

/-! ## Reading a trace -/

namespace Observation

/-- The contents that were put in place. -/
def version? : Observation → Option Snapshot
  | noted (.stored contents) | noted (.published contents) => some contents
  | _ => none

/-- The id that was given. -/
def given? : Observation → Option ListenerId
  | attached id => some id
  | _ => none

end Observation

namespace Trace

/-- All contents that a registry had, the first ones at its beginning. -/
def versions (initial : Snapshot) (trace : Trace) : List Snapshot :=
  initial :: trace.filterMap Observation.version?

/-- The number of the contents that are in place. -/
def number (trace : Trace) : Nat := (trace.filterMap Observation.version?).length

/-- The ids given, in order. -/
def given (trace : Trace) : List ListenerId := trace.filterMap Observation.given?

/-- No more listeners were attached than there are ids. -/
def WithinIds (trace : Trace) : Prop := (given trace).length ≤ UInt64.size

/-- The listeners attached and not detached since, in the order in which they were attached. -/
def registered (trace : Trace) : List ListenerId :=
  trace.foldl (fun ids seen =>
    match seen with
    | .attached id => ids ++ [id]
    | .detached id _ => ids.filter (· ≠ id)
    | _ => ids) []

/-- How far a notification is. -/
structure Progress where
  /-- How many notifications are open inside of it. -/
  nested : Nat := 0
  /-- The listeners that it called itself, in order. -/
  called : List ListenerId := []
  ended : Bool := false

def Progress.read (p : Progress) : Observation → Progress
  | .noted (.notifying _) => if p.ended then p else { p with nested := p.nested + 1 }
  | .noted (.called id _) =>
    if p.ended || p.nested ≠ 0 then p else { p with called := p.called ++ [id] }
  | .notified =>
    if p.ended then p
    else if p.nested = 0 then { p with ended := true }
    else { p with nested := p.nested - 1 }
  | _ => p

namespace Progress

variable {p : Progress}

theorem read_of_ended (h : p.ended = true) (seen : Observation) : p.read seen = p := by
  unfold read
  split <;> simp [h]

theorem read_notifying (h : p.ended = false) (ids : List ListenerId) :
    p.read (.noted (.notifying ids)) = { p with nested := p.nested + 1 } :=
  if_neg (ne_true_of_eq_false h)

/-- A call is the notification's own if no other one is open inside of it. -/
theorem read_called (h : p.ended = false) (hnested : p.nested = 0) (id : ListenerId)
    (contents : Snapshot) :
    p.read (.noted (.called id contents)) = { p with called := p.called ++ [id] } := by
  simp [read, h, hnested]

theorem read_called_inside (hnested : p.nested ≠ 0) (id : ListenerId) (contents : Snapshot) :
    p.read (.noted (.called id contents)) = p := by
  simp [read, hnested]

theorem read_notified (h : p.ended = false) (hnested : p.nested = 0) :
    p.read .notified = { p with ended := true } := by
  simp [read, h, hnested]

theorem read_notified_inside (h : p.ended = false) (hnested : p.nested ≠ 0) :
    p.read .notified = { p with nested := p.nested - 1 } := by
  simp [read, h, hnested]

end Progress

/-- How far a notification is, given what was seen since it began. -/
def progress (inside : Trace) : Progress := inside.foldl Progress.read {}

theorem getLast?_versions_concat (initial : Snapshot) (trace : Trace) (seen : Observation) :
    (versions initial (trace ++ [seen])).getLast? =
      seen.version?.or (versions initial trace).getLast? := by
  rw [versions, List.filterMap_append, ← List.cons_append, List.getLast?_append]
  cases hversion : seen.version? <;> simp [hversion, versions]

theorem number_append (before after : Trace) :
    number (before ++ after) = number before + number after := by
  rw [number, List.filterMap_append, List.length_append]
  rfl

/-- The contents that are in place are found by their number from then on. -/
theorem getElem?_versions (initial : Snapshot) (before after : Trace) :
    (versions initial (before ++ after))[number before]? = (versions initial before).getLast? := by
  have hlength : (versions initial before).length = number before + 1 := rfl
  rw [versions, List.filterMap_append, ← List.cons_append, List.getElem?_append_left]
  · rw [List.getLast?_eq_getElem?, hlength]
    rfl
  · exact Nat.lt_succ_self _

theorem progress_concat (inside : Trace) (seen : Observation) :
    progress (inside ++ [seen]) = (progress inside).read seen := by
  rw [progress, List.foldl_append]
  rfl

/-- A notification has not ended: so many others are open inside of it, and these are the listeners
that it is still to call. -/
def Open (trace : Trace) (nested : Nat) (rest : List ListenerId) : Prop :=
  ∃ before ids inside, trace = before ++ .noted (.notifying ids) :: inside ∧
    (progress inside).ended = false ∧ (progress inside).nested = nested ∧
    (progress inside).called ++ rest = ids

theorem Open.concat {trace : Trace} {nested nested' : Nat} {rest rest' : List ListenerId}
    {seen : Observation} (h : trace.Open nested rest)
    (hread : ∀ p : Progress, p.ended = false → p.nested = nested →
      (p.read seen).ended = false ∧ (p.read seen).nested = nested' ∧
        (p.read seen).called ++ rest' = p.called ++ rest) :
    Open (trace ++ [seen]) nested' rest' := by
  obtain ⟨before, ids, inside, rfl, hopen, hnested, hcalled⟩ := h
  obtain ⟨hopen', hnested', hcalled'⟩ := hread _ hopen hnested
  refine ⟨before, ids, inside ++ [seen], by rw [List.append_assoc, List.cons_append], ?_⟩
  rw [progress_concat]
  exact ⟨hopen', hnested', hcalled'.trans hcalled⟩

end Trace

/-! ## Accounts -/

/-- What is known of a registry from what was seen of it. -/
structure Account where
  contents : Snapshot
  /-- Who is attached, in the order in which they were. -/
  registered : List ListenerId
  /-- All ids given so far. -/
  given : List ListenerId
  /-- A reload has published and its notification comes next. -/
  announcing : Bool
  /-- Whom each notification that has not ended is still to call, the innermost first. -/
  due : List (List ListenerId)

namespace Account

def opening (contents : Snapshot) : Account := ⟨contents, [], [], false, []⟩

/-- An observation that may be made, and the account after it. -/
inductive Reads (a : Account) : Observation → Account → Prop
  | published (h : a.announcing = false) (contents : Snapshot) :
      Reads a (.noted (.published contents)) { a with contents, announcing := true }
  | notifying (h : a.announcing = true) :
      Reads a (.noted (.notifying a.registered))
        { a with announcing := false, due := a.registered :: a.due }
  | called (h : a.announcing = false) {id : ListenerId} {rest : List ListenerId}
      {outer : List (List ListenerId)} (hdue : a.due = (id :: rest) :: outer) :
      Reads a (.noted (.called id a.contents)) { a with due := rest :: outer }
  | notified (h : a.announcing = false) {outer : List (List ListenerId)}
      (hdue : a.due = [] :: outer) : Reads a .notified { a with due := outer }
  | stored (h : a.announcing = false) (contents : Snapshot) :
      Reads a (.noted (.stored contents)) { a with contents }
  | swept (h : a.announcing = false) (host : Option String) : Reads a (.noted (.swept host)) a
  | serving (h : a.announcing = false) (contents : Snapshot) :
      Reads a (.noted (.serving contents)) a
  | attached (h : a.announcing = false) {id : ListenerId} (hnext : id = .after a.given.length) :
      Reads a (.attached id) { a with registered := a.registered ++ [id], given := a.given ++ [id] }
  | detached (h : a.announcing = false) (id : ListenerId) :
      Reads a (.detached id (decide (id ∈ a.registered)))
        { a with registered := a.registered.filter (· ≠ id) }

/-- The observations may be made one after the other. -/
inductive ReadsAll (a : Account) : Trace → Account → Prop
  | nil : ReadsAll a [] a
  | concat {trace : Trace} {seen : Observation} {a₁ a₂ : Account}
      (h : ReadsAll a trace a₁) (hseen : Reads a₁ seen a₂) : ReadsAll a (trace ++ [seen]) a₂

theorem ReadsAll.append {a a₁ a₂ : Account} {trace trace' : Trace}
    (h : ReadsAll a trace a₁) (h' : ReadsAll a₁ trace' a₂) : ReadsAll a (trace ++ trace') a₂ := by
  induction h' with
  | nil => rwa [List.append_nil]
  | concat _ hseen ih =>
    rw [← List.append_assoc]
    exact ih.concat hseen

theorem ReadsAll.of_concat {a a₂ : Account} {trace : Trace} {seen : Observation}
    (h : ReadsAll a (trace ++ [seen]) a₂) : ∃ a₁, ReadsAll a trace a₁ ∧ Reads a₁ seen a₂ := by
  generalize hwhole : trace ++ [seen] = whole at h
  cases h with
  | nil => simp at hwhole
  | concat h hseen =>
    obtain ⟨rfl, hlast⟩ := List.append_inj' hwhole rfl
    cases hlast
    exact ⟨_, h, hseen⟩

theorem ReadsAll.of_append {a a₂ : Account} {before after : Trace}
    (h : ReadsAll a (before ++ after) a₂) :
    ∃ a₁, ReadsAll a before a₁ ∧ ReadsAll a₁ after a₂ := by
  induction after using List.reverseRecOn generalizing a₂ with
  | nil => exact ⟨a₂, by rwa [List.append_nil] at h, .nil⟩
  | append_singleton after seen ih =>
    rw [← List.append_assoc] at h
    obtain ⟨a₁, hfirst, hseen⟩ := h.of_concat
    obtain ⟨a₀, hbefore, hafter⟩ := ih hfirst
    exact ⟨a₀, hbefore, hafter.concat hseen⟩

/-- Where an observation was made, and what was known before and after it. -/
theorem ReadsAll.of_cons {a a₃ : Account} {before after : Trace} {seen : Observation}
    (h : ReadsAll a (before ++ seen :: after) a₃) :
    ∃ a₁ a₂, ReadsAll a before a₁ ∧ Reads a₁ seen a₂ ∧ ReadsAll a₂ after a₃ := by
  rw [List.append_cons] at h
  obtain ⟨a₂, hfirst, hafter⟩ := h.of_append
  obtain ⟨a₁, hbefore, hseen⟩ := hfirst.of_concat
  exact ⟨a₁, a₂, hbefore, hseen, hafter⟩

theorem ReadsAll.of_nil {a a' : Account} (h : ReadsAll a [] a') : a' = a := by
  generalize hnone : ([] : Trace) = none at h
  cases h with
  | nil => rfl
  | concat => simp at hnone

/-! ## What an account says of its trace -/

theorem ReadsAll.reading {initial : Snapshot} {trace : Trace} {a : Account}
    (h : ReadsAll (opening initial) trace a) :
    a.registered = trace.registered ∧ a.given = trace.given ∧
      (Trace.versions initial trace).getLast? = some a.contents := by
  induction h with
  | nil => exact ⟨rfl, rfl, rfl⟩
  | concat _ hseen ih =>
    obtain ⟨hregistered, hgiven, hversion⟩ := ih
    rw [Trace.getLast?_versions_concat, hversion, Trace.registered, List.foldl_append,
      ← Trace.registered, ← hregistered, Trace.given, List.filterMap_append, ← Trace.given,
      ← hgiven]
    cases hseen <;> simp [Observation.version?, Observation.given?]

theorem Reads.given_le {a a' : Account} {seen : Observation} (h : Reads a seen a') :
    a.given.length ≤ a'.given.length := by
  cases h with
  | attached =>
    rw [List.length_append]
    exact Nat.le_add_right _ _
  | published | notifying | called | notified | stored | swept | serving | detached =>
    exact Nat.le_refl _

/-- The first id is followed by the others in their order. -/
theorem ReadsAll.given_eq {initial : Snapshot} {trace : Trace} {a : Account}
    (h : ReadsAll (opening initial) trace a) :
    a.given = (List.range a.given.length).map .after := by
  induction h with
  | nil => rfl
  | concat _ hseen ih =>
    cases hseen with
    | attached _ hnext =>
      rw [hnext, List.length_append, List.length_singleton, List.range_succ, List.map_append, ← ih]
      rfl
    | published | notifying | called | notified | stored | swept | serving | detached => exact ih

/-- Ids are given once as long as there are any left. -/
theorem ReadsAll.fresh {initial : Snapshot} {trace : Trace} {a : Account}
    (h : ReadsAll (opening initial) trace a) (hleft : a.given.length ≤ UInt64.size) :
    a.given.Nodup := by
  rw [h.given_eq]
  exact ListenerId.nodup_after hleft

theorem ReadsAll.new {initial : Snapshot} {trace : Trace} {a : Account}
    (h : ReadsAll (opening initial) trace a) (hquiet : a.announcing = false)
    (hleft : a.given.length < UInt64.size) : .after a.given.length ∉ a.given := by
  have hfresh := (h.concat (.attached hquiet rfl)).fresh (by rw [List.length_append]; exact hleft)
  intro hmem
  exact (List.nodup_append.1 hfresh).2.2 _ hmem _ (List.mem_singleton_self _) rfl

/-- Only given ids are registered, each once. -/
structure Tidy (a : Account) : Prop where
  distinct : a.registered.Nodup
  known : ∀ id ∈ a.registered, id ∈ a.given

theorem ReadsAll.tidy {initial : Snapshot} {trace : Trace} {a : Account}
    (h : ReadsAll (opening initial) trace a) (hleft : a.given.length ≤ UInt64.size) : a.Tidy := by
  induction h with
  | nil => exact ⟨.nil, nofun⟩
  | @concat _ _ a _ hbefore hseen ih =>
    have ih := ih (Nat.le_trans hseen.given_le hleft)
    cases hseen with
    | attached hquiet hnext =>
      subst hnext
      rw [List.length_append] at hleft
      have hnew := hbefore.new hquiet hleft
      refine ⟨?_, fun id' hmem => ?_⟩
      · have hdistinct := ih.distinct.concat fun hmem => hnew (ih.known _ hmem)
        rwa [List.concat_eq_append] at hdistinct
      · exact (List.mem_append.1 hmem).elim (fun hold => List.mem_append_left _ (ih.known id' hold))
          (List.mem_append_right _)
    | detached _ id =>
      exact ⟨ih.distinct.filter _, fun id' hmem => ih.known id' (List.mem_of_mem_filter hmem)⟩
    | published | notifying | called | notified | stored | swept | serving =>
      exact ⟨ih.distinct, ih.known⟩

/-- An id that was detached was given, is not registered any more, and was detached once. -/
theorem ReadsAll.detached_once {initial : Snapshot} {trace : Trace} {a : Account}
    (h : ReadsAll (opening initial) trace a) (hleft : a.given.length ≤ UInt64.size)
    (id : ListenerId) :
    trace.count (.detached id true) = 0 ∨
      trace.count (.detached id true) = 1 ∧ id ∈ a.given ∧ id ∉ a.registered := by
  induction h with
  | nil => exact .inl rfl
  | @concat trace seen a a' hbefore hseen ih =>
    have hleft' : a.given.length ≤ UInt64.size := Nat.le_trans hseen.given_le hleft
    have ih := ih hleft'
    have hsame (hother : seen ≠ .detached id true) :
        (trace ++ [seen]).count (.detached id true) = trace.count (.detached id true) := by
      rw [List.count_append, List.count_singleton, if_neg (by simpa using hother), Nat.add_zero]
    cases hseen with
    | attached hquiet hnext =>
      subst hnext
      rw [List.length_append] at hleft
      have hnew := hbefore.new hquiet hleft
      rw [hsame nofun]
      refine ih.imp_right fun ⟨hcount, hgiven, hgone⟩ => ⟨hcount, List.mem_append_left _ hgiven, ?_⟩
      intro hmem
      rcases List.mem_append.1 hmem with hold | hlast
      · exact hgone hold
      · cases List.mem_singleton.1 hlast
        exact hnew hgiven
    | detached _ id' =>
      by_cases hthis : Observation.detached id' (decide (id' ∈ a.registered)) = .detached id true
      · right
        obtain ⟨rfl, hfound⟩ := Observation.detached.inj hthis
        have hmem : id' ∈ a.registered := of_decide_eq_true hfound
        have hnone : trace.count (.detached id' true) = 0 :=
          ih.resolve_right fun hgone => hgone.2.2 hmem
        refine ⟨?_, (hbefore.tidy hleft').known id' hmem, by simp⟩
        rw [List.count_append, hnone, hthis]
        simp
      · rw [hsame hthis]
        exact ih.imp_right fun ⟨hcount, hgiven, hgone⟩ =>
          ⟨hcount, hgiven, fun hmem => hgone (List.mem_of_mem_filter hmem)⟩
    | published | notifying | called | notified | stored | swept | serving =>
      rw [hsame nofun]
      exact ih

/-- Only a reload makes a notification come next. -/
theorem ReadsAll.published_of_announcing {initial : Snapshot} {trace : Trace} {a : Account}
    (h : ReadsAll (opening initial) trace a) (hannouncing : a.announcing = true) :
    ∃ outer contents, trace = outer ++ [.noted (.published contents)] := by
  cases h with
  | nil => cases hannouncing
  | concat _ hseen =>
    cases hseen with
    | published _ contents => exact ⟨_, contents, rfl⟩
    | notifying => cases hannouncing
    | called hno | notified hno | stored hno | swept hno | serving hno | attached hno
    | detached hno => cases hno.symm.trans hannouncing

/-- The notification of a reload comes next. -/
theorem ReadsAll.notifying_of_announcing {a a' : Account} {after : Trace}
    (h : ReadsAll a after a') (hannouncing : a.announcing = true) (hquiet : a'.announcing = false) :
    ∃ ids inside, after = .noted (.notifying ids) :: inside := by
  cases after with
  | nil =>
    rw [h.of_nil, hannouncing] at hquiet
    cases hquiet
  | cons seen after =>
    rw [← List.nil_append (seen :: after)] at h
    obtain ⟨a₁, a₂, hnone, hseen, -⟩ := h.of_cons
    rw [← hnone.of_nil] at hannouncing
    cases hseen with
    | notifying => exact ⟨_, after, rfl⟩
    | published hno | called hno | notified hno | stored hno | swept hno | serving hno
    | attached hno | detached hno => cases hno.symm.trans hannouncing

/-! ## Notifications in progress -/

/-- While it is open a notification has called a part of its listeners, and all of them once it has
ended. -/
theorem ReadsAll.progress {a a' : Account} {inside : Trace} {ids : List ListenerId}
    {outer : List (List ListenerId)} (h : ReadsAll a inside a') (hdue : a.due = ids :: outer) :
    ((Trace.progress inside).ended = false ∧ ∃ inner rest,
      a'.due = inner ++ rest :: outer ∧ (Trace.progress inside).nested = inner.length ∧
        (Trace.progress inside).called ++ rest = ids) ∨
    ((Trace.progress inside).ended = true ∧ (Trace.progress inside).called = ids) := by
  induction h with
  | nil => exact .inl ⟨rfl, [], ids, hdue, rfl, rfl⟩
  | @concat inside seen a₁ a₂ _ hseen ih =>
    rw [Trace.progress_concat]
    rcases ih with ⟨hopen, inner, rest, hinner, hnested, hcalled⟩ | ⟨hended, hcalled⟩
    · have hinside {head : List ListenerId} {inner' : List (List ListenerId)}
          (h : inner = head :: inner') : (Trace.progress inside).nested ≠ 0 := by
        rw [hnested, h]
        exact Nat.succ_ne_zero _
      cases hseen with
      | notifying =>
        rw [Trace.Progress.read_notifying hopen]
        exact .inl ⟨hopen, a₁.registered :: inner, rest, congrArg _ hinner,
          congrArg (· + 1) hnested, hcalled⟩
      | @called _ id others below hnext =>
        rw [hinner] at hnext
        left
        cases inner with
        | nil =>
          obtain ⟨rfl, rfl⟩ := List.cons.inj hnext
          rw [Trace.Progress.read_called hopen hnested]
          exact ⟨hopen, [], others, rfl, hnested, (List.append_assoc _ _ _).trans hcalled⟩
        | cons head inner =>
          obtain ⟨rfl, rfl⟩ := List.cons.inj hnext
          rw [Trace.Progress.read_called_inside (hinside rfl)]
          exact ⟨hopen, others :: inner, rest, rfl, hnested, hcalled⟩
      | @notified _ below hnext =>
        rw [hinner] at hnext
        cases inner with
        | nil =>
          obtain ⟨rfl, rfl⟩ := List.cons.inj hnext
          rw [Trace.Progress.read_notified hopen hnested]
          rw [List.append_nil] at hcalled
          exact .inr ⟨rfl, hcalled⟩
        | cons head inner =>
          obtain ⟨rfl, rfl⟩ := List.cons.inj hnext
          rw [Trace.Progress.read_notified_inside hopen (hinside rfl)]
          exact .inl ⟨hopen, inner, rest, rfl, congrArg (· - 1) hnested, hcalled⟩
      | published | stored | swept | serving | attached | detached =>
        exact .inl ⟨hopen, inner, rest, hinner, hnested, hcalled⟩
    · rw [Trace.Progress.read_of_ended hended]
      exact .inr ⟨hended, hcalled⟩

/-- Each notification that is still to call somebody began and has not ended. -/
theorem ReadsAll.open_of_due {initial : Snapshot} {trace : Trace} {a : Account}
    (h : ReadsAll (opening initial) trace a) {inner : List (List ListenerId)}
    {rest : List ListenerId} {outer : List (List ListenerId)}
    (hdue : a.due = inner ++ rest :: outer) : trace.Open inner.length rest := by
  induction h generalizing inner rest outer with
  | nil => simp [opening] at hdue
  | @concat trace seen a₁ a₂ _ hseen ih =>
    cases hseen with
    | notifying =>
      cases inner with
      | nil =>
        obtain ⟨rfl, rfl⟩ := List.cons.inj hdue
        exact ⟨trace, _, [], rfl, rfl, rfl, rfl⟩
      | cons head inner =>
        refine (ih (List.cons.inj hdue).2).concat fun p hopen hnested => ?_
        rw [Trace.Progress.read_notifying hopen]
        exact ⟨hopen, congrArg (· + 1) hnested, rfl⟩
    | @called _ id others below hnext =>
      cases inner with
      | nil =>
        obtain ⟨rfl, rfl⟩ := List.cons.inj hdue
        have hbefore : trace.Open 0 (id :: others) := @ih [] (id :: others) below hnext
        refine hbefore.concat fun p hopen hnested => ?_
        rw [Trace.Progress.read_called hopen hnested]
        exact ⟨hopen, hnested, List.append_assoc _ _ _⟩
      | cons head inner =>
        obtain ⟨rfl, rfl⟩ := List.cons.inj hdue
        have hbefore : trace.Open (inner.length + 1) rest :=
          @ih ((id :: others) :: inner) rest outer hnext
        refine hbefore.concat fun p hopen hnested => ?_
        rw [Trace.Progress.read_called_inside (by rw [hnested]; exact Nat.succ_ne_zero _)]
        exact ⟨hopen, hnested, rfl⟩
    | @notified _ below hnext =>
      have hbefore : trace.Open (inner.length + 1) rest :=
        @ih ([] :: inner) rest outer (hnext.trans (congrArg _ hdue))
      refine hbefore.concat fun p hopen hnested => ?_
      rw [Trace.Progress.read_notified_inside hopen (by rw [hnested]; exact Nat.succ_ne_zero _)]
      exact ⟨hopen, congrArg (· - 1) hnested, rfl⟩
    | published | stored | swept | serving | attached | detached =>
      exact (ih hdue).concat fun p hopen hnested => ⟨hopen, hnested, rfl⟩

end Account

end HostRegistry
