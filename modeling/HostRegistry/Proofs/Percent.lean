import HostRegistry.Percent
import HostRegistry.Proofs.Bytes

/-!
# Escapes come back

What is decoded from an escaped text is what is decoded from the text itself, as long as neither the
percent sign nor hexadecimal digits are escaped. So a text without escapes of its own comes back as
it was, and one with escapes comes back shorter.
-/

namespace HostRegistry.Percent

open Json

/-! ## Decoding -/

theorem decode_of_ne {b : UInt8} (h : b ≠ 0x25) (rest : Bytes) :
    decode (b :: rest) = b :: decode rest := by
  rw [decode]
  rintro a c rest rfl -
  exact h rfl

/-- The bytes do not begin with two hexadecimal digits, so they do not end an escape. -/
def EndsNoEscape (bs : Bytes) : Prop :=
  ∀ a b more, bs = a :: b :: more → hexValue? a = none ∨ hexValue? b = none

/-- A percent sign without two digits behind it stays. -/
theorem decode_percent {rest : Bytes} (h : EndsNoEscape rest) :
    decode (0x25 :: rest) = 0x25 :: decode rest := by
  match rest, h with
  | [], _ | [_], _ => rfl
  | a :: b :: more, h =>
    rw [decode]
    split
    next ha hb =>
      rcases h a b more rfl with hnone | hnone
      · cases ha.symm.trans hnone
      · cases hb.symm.trans hnone
    next => rfl

theorem length_decode_le (bs : Bytes) : (decode bs).length ≤ bs.length := by
  fun_induction decode bs with
  | case1 a b rest high low _ _ ih => simp only [List.length_cons]; omega
  | case2 a b rest _ ih => simp only [List.length_cons] at ih ⊢; omega
  | case3 b rest _ ih => simp only [List.length_cons]; omega
  | case4 => exact Nat.le_refl 0

/-! ## Encoding -/

theorem encode_cons (escaped : UInt8 → Bool) (b : UInt8) (rest : Bytes) :
    encode escaped (b :: rest) =
      (if escaped b then [0x25, upperDigit (b >>> 4), upperDigit (b &&& 0x0F)] else [b]) ++
        encode escaped rest := by
  rw [encode, List.flatMap_cons]
  rfl

theorem hexValue?_upperDigit (b : UInt8) :
    hexValue? (upperDigit (b >>> 4)) = some (b.toNat / 16) ∧
      hexValue? (upperDigit (b &&& 0x0F)) = some (b.toNat % 16) := by
  revert b
  exact Bytes.forall_byte (by decide +kernel)

/-- Bytes that are escaped come back. -/
theorem decode_escape (b : UInt8) (rest : Bytes) :
    decode (0x25 :: upperDigit (b >>> 4) :: upperDigit (b &&& 0x0F) :: rest) =
      b :: decode rest := by
  obtain ⟨hhigh, hlow⟩ := hexValue?_upperDigit b
  rw [decode, hhigh, hlow]
  have hb : b.toNat / 16 * 16 + b.toNat % 16 = b.toNat := by omega
  simp [hb]

theorem mem_encode {escaped : UInt8 → Bool} {bs : Bytes} {b : UInt8}
    (h : b ∈ encode escaped bs) :
    (b ∈ bs ∧ escaped b = false) ∨ b = 0x25 ∨ (hexValue? b).isSome := by
  rw [encode, List.mem_flatMap] at h
  obtain ⟨b', hb', h⟩ := h
  split at h
  · obtain ⟨hhigh, hlow⟩ := hexValue?_upperDigit b'
    rw [List.mem_cons, List.mem_cons, List.mem_singleton] at h
    rcases h with rfl | rfl | rfl
    · exact .inr (.inl rfl)
    · exact .inr (.inr (by rw [hhigh]; rfl))
    · exact .inr (.inr (by rw [hlow]; rfl))
  next hescaped =>
    cases List.mem_singleton.1 h
    exact .inl ⟨hb', eq_false_of_ne_true hescaped⟩

variable {escaped : UInt8 → Bool}

/-- A digit at the beginning of an escaped text was there before. -/
theorem eq_cons_of_encode_eq_cons {bs rest : Bytes} {a : UInt8} (ha : (hexValue? a).isSome)
    (h : encode escaped bs = a :: rest) :
    ∃ rest', bs = a :: rest' ∧ rest = encode escaped rest' := by
  cases bs with
  | nil => cases h
  | cons b bs =>
    rw [encode_cons] at h
    split at h
    · cases (List.cons.inj h).1
      cases ha
    · obtain ⟨rfl, rfl⟩ := List.cons.inj h
      exact ⟨bs, rfl, rfl⟩

/-- Escaping puts no two digits behind a percent sign that were not there. -/
theorem EndsNoEscape.encode {bs : Bytes} (h : EndsNoEscape bs) :
    EndsNoEscape (encode escaped bs) := by
  intro a b more hencode
  cases ha : hexValue? a with
  | none => exact .inl rfl
  | some high =>
    obtain ⟨rest, rfl, hrest⟩ := eq_cons_of_encode_eq_cons (ha ▸ rfl) hencode
    cases hb : hexValue? b with
    | none => exact .inr rfl
    | some low =>
      obtain ⟨more, rfl, -⟩ := eq_cons_of_encode_eq_cons (hb ▸ rfl) hrest.symm
      rcases h a b more rfl with hnone | hnone
      · cases ha.symm.trans hnone
      · cases hb.symm.trans hnone

theorem decode_encode (hpercent : escaped 0x25 = false)
    (hdigits : ∀ b, (hexValue? b).isSome → escaped b = false) (bs : Bytes) :
    decode (encode escaped bs) = decode bs := by
  fun_induction decode bs with
  | case1 a b rest high low hb ha ih =>
    rw [encode_cons, encode_cons, encode_cons, hpercent, hdigits a (ha ▸ rfl), hdigits b (hb ▸ rfl)]
    simp only [Bool.false_eq_true, if_false, List.singleton_append]
    rw [decode, ha, hb, ih]
  | case2 a b rest hnone ih =>
    have hstays : EndsNoEscape (a :: b :: rest) := by
      rintro _ _ _ ⟨⟩
      cases ha : hexValue? a with
      | none => exact .inl rfl
      | some high => exact .inr (Option.eq_none_iff_forall_ne_some.2 fun low => hnone high low ha)
    rw [encode_cons, hpercent]
    simp only [Bool.false_eq_true, if_false, List.singleton_append]
    rw [decode_percent hstays.encode, ih]
  | case3 b rest hshort ih =>
    rw [encode_cons]
    split
    · rw [List.cons_append, List.cons_append, List.cons_append, List.nil_append, decode_escape, ih]
    · rw [List.singleton_append]
      by_cases hb : b = 0x25
      · have hstays : EndsNoEscape rest := fun a c more h => (hshort a c more hb h).elim
        rw [hb, decode_percent hstays.encode, ih]
      · rw [decode_of_ne hb, ih]
  | case4 => rfl

end HostRegistry.Percent
