import HostRegistry.Json.Registry
import HostRegistry.Proofs.Except

/-!
# What a structure is made up from

The fields of a structure are read one after the other, from the items of a list or from the members
of an object in any order and among others. So whatever is true before any field is given, and stays
true when a field is set to what its reader gives, is true of the fields that the structure is made
up from in the end.
-/

namespace HostRegistry.Json

/-- Setting the field to what its reader gives keeps the property. -/
def Field.Keeps {ρ : Type} (field : Field ρ) (P : ρ → Prop) : Prop :=
  ∀ input set rest, field.read input = .ok (set, rest) → ∀ given, P given → P (set given)

theorem Field.keeps_setting {ρ α : Type} {P : ρ → Prop} {name : String} {isGiven : ρ → Bool}
    {value : Reader α} {set : ρ → α → ρ}
    (h : ∀ input a rest, value input = .ok (a, rest) → ∀ given, P given → P (set given a)) :
    Field.Keeps ⟨name, isGiven, setting value set⟩ P := by
  intro input set' rest hread given hgiven
  obtain ⟨⟨a, behind⟩, hvalue, hset⟩ := bind_eq_ok hread
  cases hset
  exact h input a rest hvalue given hgiven

namespace Struct

variable {ρ α : Type} {P : ρ → Prop} {fields : List (Field ρ)} {given last : ρ}
  {input rest : Bytes}

theorem readItems_keeps (hkeeps : ∀ field ∈ fields, field.Keeps P) {index : Nat}
    (hgiven : P given) (h : readItems fields index given input = .ok (last, rest)) : P last := by
  induction fields generalizing index given input with
  | nil =>
    cases h
    exact hgiven
  | cons field fields ih =>
    obtain ⟨hfield, hfields⟩ := List.forall_mem_cons.1 hkeeps
    rw [readItems] at h
    obtain ⟨next, -, h⟩ := bind_eq_ok h
    cases next with
    | none =>
      cases h
      exact hgiven
    | some input' =>
      obtain ⟨⟨set, rest'⟩, hread, hothers⟩ := bind_eq_ok h
      exact ih hfields (hfield input' set rest' (mapError_eq_ok.1 hread) given hgiven) hothers

theorem readMembers_keeps (hkeeps : ∀ field ∈ fields, field.Keeps P) {fuel : Nat} {first : Bool}
    (hgiven : P given) (h : readMembers fields fuel first given input = .ok (last, rest)) :
    P last := by
  induction fuel generalizing first given input with
  | zero => cases h
  | succ fuel ih =>
    rw [readMembers] at h
    obtain ⟨⟨name?, behind⟩, -, h⟩ := bind_eq_ok h
    cases name? with
    | none =>
      cases h
      exact hgiven
    | some name =>
      simp only at h
      split at h
      next =>
        -- A member of another name is skipped.
        obtain ⟨_, -, h⟩ := bind_eq_ok h
        obtain ⟨_, -, hothers⟩ := bind_eq_ok h
        exact ih hgiven hothers
      next field hknown =>
        split at h
        · cases h
        · obtain ⟨input', -, h⟩ := bind_eq_ok h
          obtain ⟨⟨set, rest'⟩, hread, hothers⟩ := bind_eq_ok h
          have hfield := hkeeps field (List.mem_of_find?_eq_some hknown)
          exact ih (hfield input' set rest' (mapError_eq_ok.1 hread) given hgiven) hothers

/-- A structure that was read is made up from fields with every property that holds before the first
field is given and that the readers of the fields keep. -/
theorem exists_finish_of_read {struct : Struct ρ α} {a : α} (hstart : P struct.start)
    (hkeeps : ∀ field ∈ struct.fields, field.Keeps P) (h : struct.read input = .ok (a, rest)) :
    ∃ given, P given ∧ struct.finish given = .ok a := by
  rw [read] at h
  split at h
  · cases h
  next b behind _ =>
    split at h
    · -- The fields stand in a list, which has to end behind them.
      obtain ⟨⟨given, rest'⟩, hitems, h⟩ := bind_eq_ok h
      have hgiven : P given := readItems_keeps hkeeps hstart hitems
      simp only at h
      split at h
      next a' hfinish =>
        obtain ⟨_, -, h⟩ := bind_eq_ok h
        cases h
        exact ⟨given, hgiven, hfinish⟩
      next => cases h
    · split at h
      · obtain ⟨⟨given, rest'⟩, hmembers, h⟩ := bind_eq_ok h
        have hgiven : P given := readMembers_keeps hkeeps hstart hmembers
        simp only at h
        split at h
        next a' hfinish =>
          cases h
          exact ⟨given, hgiven, hfinish⟩
        next => cases h
      · cases h

end Struct

end HostRegistry.Json
