import HostRegistry.Repository.Debounce
import Mathlib.Data.List.Basic

/-!
# Looks at a file whose changes come in bursts

Two loops take their signals from one queue. The outer one takes signals until a change comes; the
inner one goes on from there until a period passes without a change, or a shutdown comes. Together
they look where the states of `State` say, and wait where these say. A look is taken at each quiet
period behind a change that came after the look before, as long as there was no shutdown, and
nowhere else. What a burst comes to, and what a shutdown puts an end to, follows from this law
alone.
-/

namespace HostRegistry.Debounce

/-! ## The two loops -/

/-- The inner loop takes changes until a period passes without one (`true`) or a shutdown comes
(`false`), and leaves the signals behind that. It waits on while neither comes. -/
def settle : List Signal → Option (Bool × List Signal)
  | [] => none
  | .changed :: rest => settle rest
  | .shutdown :: rest => some (false, rest)
  | .quiet :: rest => some (true, rest)

theorem length_lt_of_settle {signals rest : List Signal} {quiet : Bool}
    (h : settle signals = some (quiet, rest)) : rest.length < signals.length := by
  induction signals with
  | nil => cases h
  | cons signal signals ih =>
    cases signal with
    | changed => exact Nat.lt_succ_of_lt (ih h)
    | shutdown | quiet =>
      cases h
      exact Nat.lt_succ_self _

/-- The outer loop with the inner one in it: for each look the signals that are still to come, and
where the loops wait in the end. The outer loop waits for as long as it takes. -/
def watchLoop (signals : List Signal) : List (List Signal) × State :=
  match signals with
  | [] => ([], .idle)
  | .shutdown :: _ => ([], .ended)
  | .quiet :: rest => watchLoop rest
  | .changed :: rest =>
    match h : settle rest with
    | none => ([], .settling)
    | some (false, _) => ([], .ended)
    | some (true, onward) =>
      have := length_lt_of_settle h
      let (looks, state) := watchLoop onward
      (onward :: looks, state)
termination_by signals.length

/-- The signals that are still to come at each look. -/
def ahead : List Bool → List Signal → List (List Signal)
  | look :: looks, _ :: rest => if look then rest :: ahead looks rest else ahead looks rest
  | _, _ => []

theorem after_ended (signals : List Signal) : State.ended.after signals = .ended := by
  induction signals with
  | nil => rfl
  | cons signal rest ih => exact ih

theorem ahead_ended (signals : List Signal) : ahead (State.ended.looks signals) signals = [] := by
  induction signals with
  | nil => rfl
  | cons signal rest ih => exact ih

/-- Behind a change the states go through the same signals as the inner loop. -/
theorem settling_eq (signals : List Signal) :
    (ahead (State.settling.looks signals) signals, State.settling.after signals) =
      match settle signals with
      | none => ([], .settling)
      | some (false, _) => ([], .ended)
      | some (true, rest) =>
        (rest :: ahead (State.idle.looks rest) rest, State.idle.after rest) := by
  induction signals with
  | nil => rfl
  | cons signal rest ih =>
    cases signal with
    | changed => exact ih
    | shutdown =>
      show (ahead (State.ended.looks rest) rest, State.ended.after rest) = ([], State.ended)
      rw [ahead_ended, after_ended]
    | quiet => rfl

/-- No signal is lost between the loops or taken by both. -/
theorem watchLoop_eq (signals : List Signal) :
    watchLoop signals = (ahead (State.idle.looks signals) signals, State.idle.after signals) := by
  fun_induction watchLoop signals with
  | case1 => rfl
  | case2 rest =>
    show _ = (ahead (State.ended.looks rest) rest, State.ended.after rest)
    rw [ahead_ended, after_ended]
  | case3 rest ih => exact ih
  | case4 rest hwaits =>
    show _ = (ahead (State.settling.looks rest) rest, State.settling.after rest)
    rw [settling_eq, hwaits]
  | case5 rest onward hends =>
    show _ = (ahead (State.settling.looks rest) rest, State.settling.after rest)
    rw [settling_eq, hends]
  | case6 rest onward hquiet _ looks state hloop ih =>
    show _ = (ahead (State.settling.looks rest) rest, State.settling.after rest)
    rw [hloop, Prod.mk.injEq] at ih
    rw [settling_eq, hquiet, ih.1, ih.2]

/-! ## The law of the looks -/

/-- Each signal has one look or none. It has one exactly if it is a quiet period behind a change,
with no look since that change and no shutdown before. -/
structure Lawful (signals : List Signal) (looks : List Bool) : Prop where
  length_eq : looks.length = signals.length
  look_iff : ∀ i, looks[i]? = some true ↔
    signals[i]? = some .quiet ∧ .shutdown ∉ signals.take i ∧
      ∃ j < i, signals[j]? = some .changed ∧ ∀ k, j < k → k < i → looks[k]? = some false

namespace Lawful

variable {signals : List Signal} {looks : List Bool}

theorem eq_false_of_not (h : Lawful signals looks) {i : Nat} (hi : i < signals.length)
    (hnot : looks[i]? ≠ some true) : looks[i]? = some false := by
  rw [← h.length_eq] at hi
  rw [List.getElem?_eq_getElem hi] at hnot ⊢
  cases hlook : looks[i] with
  | false => rfl
  | true => exact absurd (congrArg some hlook) hnot

theorem eq_false_of_ne_quiet (h : Lawful signals looks) {i : Nat} {signal : Signal}
    (hi : signals[i]? = some signal) (hsignal : signal ≠ .quiet) : looks[i]? = some false := by
  apply h.eq_false_of_not (List.getElem?_eq_some_iff.1 hi).1
  intro hlook
  cases hi.symm.trans ((h.look_iff i).1 hlook).1
  exact hsignal rfl

/-- A quiet period behind a change has a look, or there was one between them. -/
theorem exists_look (h : Lawful signals looks) {i j : Nat} (hji : j < i)
    (hj : signals[j]? = some .changed) (hi : signals[i]? = some .quiet)
    (hshutdown : .shutdown ∉ signals.take i) : ∃ k, j < k ∧ k ≤ i ∧ looks[k]? = some true := by
  by_contra hnone
  have hlength : i < signals.length := (List.getElem?_eq_some_iff.1 hi).1
  have hbetween : ∀ k, j < k → k < i → looks[k]? = some false := by
    intro k hjk hki
    exact h.eq_false_of_not (by omega) fun hlook => hnone ⟨k, hjk, by omega, hlook⟩
  exact hnone ⟨i, hji, Nat.le_refl i, (h.look_iff i).2 ⟨hi, hshutdown, j, hji, hj, hbetween⟩⟩

theorem burst (h : Lawful signals looks) {before rest : List Signal} {n : Nat}
    (hsignals : signals = before ++ (List.replicate (n + 1) .changed ++ .quiet :: rest))
    (hshutdown : .shutdown ∉ before) {m : Nat} (hm : m ≤ n + 1) :
    looks[before.length + m]? = some (decide (m = n + 1)) := by
  have hat : ∀ m, signals[before.length + m]? =
      (List.replicate (n + 1) Signal.changed ++ .quiet :: rest)[m]? := by
    intro m
    rw [hsignals, List.getElem?_append_right (Nat.le_add_right ..), Nat.add_sub_cancel_left]
  have hchanged : ∀ m, m < n + 1 → signals[before.length + m]? = some .changed := by
    intro m hm
    rw [hat, List.getElem?_append_left (by simpa using hm), List.getElem?_replicate_of_lt hm]
  have hquiet : signals[before.length + (n + 1)]? = some .quiet := by
    rw [hat, List.getElem?_append_right (by simp), List.length_replicate, Nat.sub_self]
    rfl
  obtain hm | rfl := Nat.lt_or_eq_of_le hm
  · rw [h.eq_false_of_ne_quiet (hchanged m hm) (by decide), decide_eq_false (Nat.ne_of_lt hm)]
  rw [decide_eq_true rfl]
  refine (h.look_iff _).2 ⟨hquiet, ?_, before.length + n, by omega, hchanged n (by omega), ?_⟩
  · have htake : signals.take (before.length + (n + 1)) =
        before ++ List.replicate (n + 1) .changed := by
      rw [hsignals, ← List.append_assoc]
      exact List.take_left' (by simp)
    rw [htake, List.mem_append, not_or]
    exact ⟨hshutdown, fun hmem => by cases List.eq_of_mem_replicate hmem⟩
  · intro k hlt hlt'
    omega

/-- From a shutdown on there is no look. -/
theorem silent (h : Lawful signals looks) {i k : Nat} (hi : signals[i]? = some .shutdown)
    (hik : i ≤ k) : looks[k]? ≠ some true := by
  intro hlook
  obtain ⟨hquiet, hshutdown, -⟩ := (h.look_iff k).1 hlook
  obtain hik | rfl := Nat.lt_or_eq_of_le hik
  · exact hshutdown (List.mem_of_getElem? ((List.getElem?_take_of_lt hik).trans hi))
  · cases hquiet.symm.trans hi

end Lawful

/-! ## The looks keep the law -/

theorem step_snd_eq_true_iff {state : State} {signal : Signal} :
    (state.step signal).2 = true ↔ state = .settling ∧ signal = .quiet := by
  cases state <;> cases signal <;> decide

theorem step_fst_eq_ended_iff {state : State} {signal : Signal} :
    (state.step signal).1 = .ended ↔ state = .ended ∨ signal = .shutdown := by
  cases state <;> cases signal <;> decide

theorem step_fst_eq_settling_iff {state : State} {signal : Signal} :
    (state.step signal).1 = .settling ↔ state ≠ .ended ∧ signal = .changed := by
  cases state <;> cases signal <;> decide

theorem length_looks (state : State) (signals : List Signal) :
    (state.looks signals).length = signals.length := by
  induction signals generalizing state with
  | nil => rfl
  | cons signal rest ih => exact congrArg Nat.succ (ih _)

/-- Whether there is a look at a signal is up to the state before it. -/
theorem getElem?_looks (state : State) (signals : List Signal) (i : Nat) :
    (state.looks signals)[i]? =
      signals[i]?.map fun signal => ((state.after (signals.take i)).step signal).2 := by
  induction signals generalizing state i with
  | nil => rfl
  | cons signal rest ih =>
    cases i with
    | zero => rfl
    | succ i => exact ih _ i

theorem after_eq_ended_iff {state : State} {signals : List Signal} :
    state.after signals = .ended ↔ state = .ended ∨ .shutdown ∈ signals := by
  induction signals generalizing state with
  | nil => exact ⟨.inl, fun h => h.resolve_right List.not_mem_nil⟩
  | cons signal rest ih =>
    show (state.step signal).1.after rest = .ended ↔ _
    rw [ih, step_fst_eq_ended_iff, List.mem_cons, or_assoc, eq_comm (a := signal)]

theorem settling_after_changes {α : Type} (changes : List α) :
    State.settling.after (changes.map fun _ => .changed) = .settling := by
  induction changes with
  | nil => rfl
  | cons change rest ih => exact ih

/-- Changes alone make the loop wait for a look, if there are any or it waits already. -/
theorem after_changes_eq_settling_iff {α : Type} {state : State} (hawake : state ≠ .ended)
    {changes : List α} :
    state.after (changes.map fun _ => .changed) = .settling ↔
      state = .settling ∨ changes ≠ [] := by
  cases changes with
  | nil => exact ⟨.inl, fun h => h.resolve_right fun hne => hne rfl⟩
  | cons change rest =>
    have hfirst : (state.step .changed).1 = .settling :=
      step_fst_eq_settling_iff.2 ⟨hawake, rfl⟩
    refine iff_of_true ?_ (.inr (List.cons_ne_nil _ _))
    show (state.step .changed).1.after (rest.map fun _ => .changed) = .settling
    rw [hfirst, settling_after_changes]

section

variable {signals : List Signal} {i j : Nat}

theorem after_take_eq_ended_iff : State.idle.after (signals.take i) = .ended ↔
    .shutdown ∈ signals.take i := by
  rw [after_eq_ended_iff]
  exact or_iff_right nofun

theorem after_take_succ {signal : Signal} (h : signals[i]? = some signal) :
    State.idle.after (signals.take (i + 1)) =
      ((State.idle.after (signals.take i)).step signal).1 := by
  rw [List.take_add_one, h, State.after, List.foldl_append]
  rfl

theorem look_iff_settling : (State.idle.looks signals)[i]? = some true ↔
    signals[i]? = some .quiet ∧ State.idle.after (signals.take i) = .settling := by
  rw [getElem?_looks, Option.map_eq_some_iff]
  constructor
  · rintro ⟨signal, hsignal, hlook⟩
    obtain ⟨hstate, rfl⟩ := step_snd_eq_true_iff.1 hlook
    exact ⟨hsignal, hstate⟩
  · rintro ⟨hsignal, hstate⟩
    exact ⟨.quiet, hsignal, step_snd_eq_true_iff.2 ⟨hstate, rfl⟩⟩

/-- Behind a change the state settles until there is a look or a shutdown. -/
theorem settling_of_no_look (hj : signals[j]? = some .changed) (hji : j < i)
    (hi : i ≤ signals.length) (hshutdown : .shutdown ∉ signals.take i)
    (hlooks : ∀ k, j < k → k < i → (State.idle.looks signals)[k]? = some false) :
    State.idle.after (signals.take i) = .settling := by
  induction i with
  | zero => omega
  | succ i ih =>
    have hbefore : .shutdown ∉ signals.take i :=
      fun hmem => hshutdown (List.take_subset_take_left signals (Nat.le_succ i) hmem)
    have hsignal : signals[i]? = some signals[i] := List.getElem?_eq_getElem hi
    rw [after_take_succ hsignal, step_fst_eq_settling_iff, Ne, after_take_eq_ended_iff]
    refine ⟨hbefore, ?_⟩
    obtain hji | rfl := Nat.lt_succ_iff_lt_or_eq.1 hji
    · have hsettling := ih hji (by omega) hbefore fun k hjk hki => hlooks k hjk (by omega)
      cases hcase : signals[i] with
      | changed => rfl
      | shutdown =>
        refine absurd ?_ hshutdown
        rw [List.take_add_one, hsignal, hcase]
        exact List.mem_append_right _ List.mem_cons_self
      | quiet =>
        -- A quiet period would have had its look.
        rw [hcase] at hsignal
        cases (hlooks i hji (Nat.lt_succ_self i)).symm.trans
          (look_iff_settling.2 ⟨hsignal, hsettling⟩)
    · exact Option.some.inj (hsignal.symm.trans hj)

/-- Where the state settles, a change came last. -/
theorem changed_of_settling (hi : i ≤ signals.length)
    (hsettling : State.idle.after (signals.take i) = .settling) :
    .shutdown ∉ signals.take i ∧ ∃ j, i = j + 1 ∧ signals[j]? = some .changed := by
  constructor
  · rw [← after_take_eq_ended_iff, hsettling]
    nofun
  cases i with
  | zero => cases hsettling
  | succ j =>
    have hsignal : signals[j]? = some signals[j] := List.getElem?_eq_getElem hi
    rw [after_take_succ hsignal, step_fst_eq_settling_iff] at hsettling
    exact ⟨j, rfl, hsignal.trans (congrArg some hsettling.2)⟩

end

theorem lawful_looks (signals : List Signal) : Lawful signals (State.idle.looks signals) where
  length_eq := length_looks .idle signals
  look_iff i := by
    rw [look_iff_settling]
    refine and_congr_right fun hquiet => ?_
    have hi : i ≤ signals.length := Nat.le_of_lt (List.getElem?_eq_some_iff.1 hquiet).1
    constructor
    · intro hsettling
      obtain ⟨hshutdown, j, rfl, hj⟩ := changed_of_settling hi hsettling
      exact ⟨hshutdown, j, Nat.lt_succ_self j, hj, fun k hjk hki => by omega⟩
    · rintro ⟨hshutdown, j, hji, hj, hlooks⟩
      exact settling_of_no_look hj hji hi hshutdown hlooks

/-- What is promised of the looks at the signals and of the state after them. -/
structure Debounced (signals : List Signal) (looks : List Bool) (final : State) : Prop where
  lawful : Lawful signals looks
  /-- A change with a quiet period behind it, before any shutdown, has a look behind it. -/
  followed : ∀ j i : Nat, j < i → signals[j]? = some .changed → signals[i]? = some .quiet →
    .shutdown ∉ signals.take i → ∃ k, j < k ∧ k ≤ i ∧ looks[k]? = some true
  /-- A burst has one look, at the quiet period behind it. -/
  burst : ∀ before rest n,
    signals = before ++ (List.replicate (n + 1) .changed ++ .quiet :: rest) →
    .shutdown ∉ before → ∀ m ≤ n + 1, looks[before.length + m]? = some (decide (m = n + 1))
  /-- From a shutdown on there is no look. -/
  silent : ∀ i k : Nat, i ≤ k → signals[i]? = some .shutdown → looks[k]? ≠ some true
  ended_iff : final = .ended ↔ .shutdown ∈ signals

/-- For every sequence of signals the two loops look where the states say, and the looks are
debounced: one at the end of each burst, none elsewhere and none behind a shutdown, which ends the
loops wherever they wait. -/
theorem looks_debounced (signals : List Signal) :
    watchLoop signals = (ahead (State.idle.looks signals) signals, State.idle.after signals) ∧
      Debounced signals (State.idle.looks signals) (State.idle.after signals) := by
  have hlawful := lawful_looks signals
  refine ⟨watchLoop_eq signals, hlawful, ?_, ?_, ?_, ?_⟩
  · intro j i hji hj hi hshutdown
    exact hlawful.exists_look hji hj hi hshutdown
  · intro before rest n hsignals hshutdown m hm
    exact hlawful.burst hsignals hshutdown hm
  · intro i k hik hi
    exact hlawful.silent hi hik
  · rw [after_eq_ended_iff]
    exact or_iff_right nofun

/-- The second burst is cut off by the shutdown. -/
example : State.idle.looks [.quiet, .changed, .changed, .quiet, .quiet, .changed, .shutdown, .quiet]
    = [false, false, false, true, false, false, false, false] := by decide

end HostRegistry.Debounce
