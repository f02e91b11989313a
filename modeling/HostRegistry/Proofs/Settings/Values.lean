import HostRegistry.Proofs.Text
import HostRegistry.Settings.Layers
import Mathlib.Data.List.Induction
import Mathlib.Data.Nat.Digits.Defs

/-!
# Truth values and numbers in the environment

A variable spells a truth value by one of six words, and a number by its decimal digits, perhaps
behind a plus sign. White space around them is passed over.
-/

namespace HostRegistry.Settings

open Text

/-! ## Truth values -/

def flagWords : Bool → List String
  | true => ["true", "1", "yes"]
  | false => ["false", "0", "no"]

/-- The text is a word for the truth value, in any case and with white space around it. -/
def SpellsFlag (s : String) (b : Bool) : Prop :=
  ∃ word, Pads word s ∧ ∃ flagWord ∈ flagWords b, word.map Char.toLower = flagWord.toList

theorem not_isWhiteSpace_of_flagWord {b : Bool} {flagWord : String} (h : flagWord ∈ flagWords b) :
    ∀ c ∈ flagWord.toList, isWhiteSpace c = false := by
  have hvisible : ∀ c ∈ flagWord.toList, 32 < c.toNat ∧ c.toNat < 127 := by
    cases b <;> simp only [flagWords, List.mem_cons, List.not_mem_nil, or_false] at h <;>
      rcases h with rfl | rfl | rfl <;> simp
  intro c hc
  obtain ⟨hfirst, hlast⟩ := hvisible c hc
  exact not_isWhiteSpace_of_visible hfirst hlast

theorem readFlag?_of_word {s : String} {b : Bool} (h : (trim s).toLower ∈ flagWords b) :
    readFlag? s = some b := by
  unfold readFlag?
  generalize (trim s).toLower = word at h ⊢
  cases b <;> simp [flagWords] at h <;> rcases h with rfl | rfl | rfl <;> decide

theorem readFlag?_eq_some_iff {s : String} {b : Bool} :
    readFlag? s = some b ↔ SpellsFlag s b := by
  constructor
  · intro h
    have hword : (trim s).toLower ∈ flagWords b := by
      unfold readFlag? at h
      simp only at h
      split at h
      next htrue => cases h; simpa [flagWords, or_assoc] using htrue
      next =>
        split at h
        next hfalse => cases h; simpa [flagWords, or_assoc] using hfalse
        next => cases h
    exact ⟨_, pads_trim s, _, hword, (String.toList_map ..).symm⟩
  · rintro ⟨word, hpads, flagWord, hflag, hlower⟩
    have hblank : ∀ c ∈ word, isWhiteSpace c = false := by
      intro c hc
      rw [← isWhiteSpace_toLower]
      exact not_isWhiteSpace_of_flagWord hflag _ (hlower ▸ List.mem_map_of_mem hc)
    apply readFlag?_of_word
    have hsame : (trim s).toLower = flagWord := by
      rw [← String.toList_inj, ← hlower, ← trim_of_pads hpads hblank]
      exact String.toList_map ..
    rw [hsame]
    exact hflag

theorem readFlag?_eq_none_iff {s : String} : readFlag? s = none ↔ ∀ b, ¬SpellsFlag s b := by
  rw [Option.eq_none_iff_forall_ne_some]
  exact forall_congr' fun b => not_congr readFlag?_eq_some_iff

/-! ## Numbers -/

/-- The value of decimal digits. -/
def decimal (digits : List Char) : Nat :=
  Nat.ofDigits 10 (digits.reverse.map fun c => c.toNat - '0'.toNat)

/-- The text is a number in decimal digits, perhaps behind a plus sign, with white space around. -/
def SpellsNumber (s : String) (n : Nat) : Prop :=
  ∃ sign digits, Pads (sign ++ digits) s ∧ (sign = [] ∨ sign = ['+']) ∧ digits ≠ [] ∧
    (∀ c ∈ digits, c.isDigit = true) ∧ n = decimal digits

theorem foldl_eq_decimal (digits : List Char) :
    digits.foldl (fun n c => n * 10 + (c.toNat - 0x30)) 0 = decimal digits := by
  induction digits using List.reverseRecOn with
  | nil => rfl
  | append_singleton digits c ih =>
    rw [List.foldl_append, ih, decimal, decimal, List.reverse_append, List.map_append,
      Nat.ofDigits_append]
    simp [Nat.add_comm, Nat.mul_comm]

/-- What stands behind a plus sign. -/
def unsigned (cs : List Char) : List Char :=
  match cs with
  | '+' :: rest => rest
  | _ => cs

theorem exists_sign (cs : List Char) :
    ∃ sign, cs = sign ++ unsigned cs ∧ (sign = [] ∨ sign = ['+']) := by
  unfold unsigned
  split
  · exact ⟨['+'], rfl, .inr rfl⟩
  · exact ⟨[], rfl, .inl rfl⟩

theorem unsigned_append {sign digits : List Char} (hsign : sign = [] ∨ sign = ['+'])
    (hdigits : ∀ c ∈ digits, c.isDigit = true) : unsigned (sign ++ digits) = digits := by
  rcases hsign with rfl | rfl
  · unfold unsigned
    split
    next rest hrest =>
      cases hrest
      cases hdigits '+' (.head _)
    next => rfl
  · rfl

/-- The digits are those of a number that 64 bits hold. -/
def Holdable (digits : List Char) : Prop :=
  digits ≠ [] ∧ (∀ c ∈ digits, c.isDigit = true) ∧ decimal digits < 2 ^ 64

theorem readUInt64?_of_unsigned {s : String} {digits : List Char}
    (hdigits : unsigned (trim s).toList = digits) :
    (Holdable digits → readUInt64? s = some (decimal digits).toUInt64) ∧
      (¬Holdable digits → readUInt64? s = none) := by
  have hread : readUInt64? s =
      let digits := unsigned (trim s).toList
      let value := digits.foldl (fun n c => n * 10 + (c.toNat - 0x30)) 0
      if digits.isEmpty || !digits.all Char.isDigit || value > 0xFFFFFFFFFFFFFFFF then none
      else some value.toUInt64 := rfl
  simp only [hdigits, foldl_eq_decimal] at hread
  have hrefused : (digits.isEmpty || !digits.all Char.isDigit ||
      decide (decimal digits > 0xFFFFFFFFFFFFFFFF)) = true ↔ ¬Holdable digits := by
    have hlarge : decimal digits > 0xFFFFFFFFFFFFFFFF ↔ ¬decimal digits < 2 ^ 64 := by omega
    rw [Holdable, Bool.or_eq_true, Bool.or_eq_true, List.isEmpty_iff, Bool.not_eq_true',
      ← Bool.not_eq_true, List.all_eq_true, decide_eq_true_iff, hlarge, not_and_or, not_and_or,
      not_not, or_assoc]
  rw [hread]
  constructor
  · intro hholdable
    exact if_neg fun h => hrefused.1 h hholdable
  · intro hnot
    exact if_pos (hrefused.2 hnot)

theorem readUInt64?_eq_some_iff {s : String} {n : UInt64} :
    readUInt64? s = some n ↔ SpellsNumber s n.toNat := by
  constructor
  · intro h
    obtain ⟨hsome, hnone⟩ := readUInt64?_of_unsigned (s := s) rfl
    by_cases hholdable : Holdable (unsigned (trim s).toList)
    · cases h.symm.trans (hsome hholdable)
      obtain ⟨hne, hall, hsmall⟩ := hholdable
      obtain ⟨sign, hsplit, hsign⟩ := exists_sign (trim s).toList
      refine ⟨sign, _, hsplit ▸ pads_trim s, hsign, hne, hall, ?_⟩
      exact Nat.mod_eq_of_lt hsmall
    · cases h.symm.trans (hnone hholdable)
  · rintro ⟨sign, digits, hpads, hsign, hne, hall, hn⟩
    have hblank : ∀ c ∈ sign ++ digits, isWhiteSpace c = false := by
      intro c hc
      rcases List.mem_append.1 hc with hplus | hdigit
      · rcases hsign with rfl | rfl
        · cases hplus
        · cases List.mem_singleton.1 hplus
          rfl
      · have hrange := hall c hdigit
        simp only [Char.isDigit, Bool.and_eq_true, decide_eq_true_iff] at hrange
        have hfirst : 48 ≤ c.toNat := hrange.1
        have hlast : c.toNat ≤ 57 := hrange.2
        exact not_isWhiteSpace_of_visible (by omega) (by omega)
    have hdigits : unsigned (trim s).toList = digits := by
      rw [trim_of_pads hpads hblank, unsigned_append hsign hall]
    rw [(readUInt64?_of_unsigned hdigits).1 ⟨hne, hall, hn ▸ n.toNat_lt⟩, ← hn]
    simp

theorem readUInt64?_eq_none_iff {s : String} :
    readUInt64? s = none ↔ ∀ n < 2 ^ 64, ¬SpellsNumber s n := by
  constructor
  · intro h n hn hspells
    have hn' : n.toUInt64.toNat = n := Nat.mod_eq_of_lt hn
    rw [← hn', ← readUInt64?_eq_some_iff, h] at hspells
    cases hspells
  · intro h
    rw [Option.eq_none_iff_forall_ne_some]
    intro n hread
    exact h n.toNat n.toNat_lt (readUInt64?_eq_some_iff.1 hread)

end HostRegistry.Settings
