import HostRegistry.Bytes
import Mathlib.Data.List.Basic

/-!
# Text and its bytes

A text has the bytes of its characters, one after the other. Bytes below `0x80` are characters of
their own, so such bytes can be written down as a text.
-/

namespace HostRegistry.Bytes

/-- What holds of the first 256 numbers, as bytes, holds of all bytes. -/
theorem forall_byte {p : UInt8 → Prop} (h : ∀ n : Fin 256, p n.val.toUInt8) (b : UInt8) : p b := by
  have hn := h ⟨b.toNat, b.toNat_lt⟩
  have hb : b.toNat.toUInt8 = b := by simp
  rwa [hb] at hn

theorem ofText_ofList (cs : List Char) :
    ofText (String.ofList cs) = cs.flatMap String.utf8EncodeChar := by
  simp [ofText, List.utf8Encode]

theorem ofText_eq_of_toText? {bs : Bytes} {s : String} (h : toText? bs = some s) :
    ofText s = bs := by
  rw [toText?, String.fromUTF8?] at h
  split at h
  · cases h
    rfl
  · cases h

/-- A text that characters are left out of loses bytes. -/
theorem eq_of_sublist {cs cs' : List Char} (h : cs.Sublist cs')
    (hlength : (ofText (String.ofList cs')).length ≤ (ofText (String.ofList cs)).length) :
    cs = cs' := by
  have hshorter : cs = cs' ∨ (cs.flatMap String.utf8EncodeChar).length <
      (cs'.flatMap String.utf8EncodeChar).length := by
    clear hlength
    induction h with
    | slnil => exact .inl rfl
    | cons c _ ih =>
      have hc := String.length_utf8EncodeChar c
      have hpos := c.utf8Size_pos
      rw [List.flatMap_cons, List.length_append]
      right
      rcases ih with rfl | ih <;> omega
    | cons_cons c _ ih =>
      rw [List.flatMap_cons, List.flatMap_cons, List.length_append, List.length_append]
      rcases ih with rfl | ih
      · exact .inl rfl
      · exact .inr (by omega)
  rw [ofText_ofList, ofText_ofList] at hlength
  exact hshorter.resolve_right (by omega)

/-! ## Bytes that are characters -/

/-- A byte below `0x80` in a character is all of that character. -/
theorem toNat_of_mem_utf8EncodeChar {c : Char} {b : UInt8} (h : b ∈ String.utf8EncodeChar c)
    (hb : b < 0x80) : c.toNat = b.toNat := by
  have hb' : b.toNat < 128 := hb
  have hc : c.val.toNat = c.toNat := rfl
  rw [String.utf8EncodeChar] at h
  simp only [hc] at h
  split at h
  · rw [List.mem_singleton] at h
    rw [h, UInt8.toNat_ofNat']
    omega
  · -- Each byte of a longer encoding has its highest bit set.
    exfalso
    split at h
    · rw [List.mem_cons, List.mem_singleton] at h
      rcases h with rfl | rfl <;> rw [UInt8.toNat_ofNat'] at hb' <;> omega
    · split at h
      · rw [List.mem_cons, List.mem_cons, List.mem_singleton] at h
        rcases h with rfl | rfl | rfl <;> rw [UInt8.toNat_ofNat'] at hb' <;> omega
      · rw [List.mem_cons, List.mem_cons, List.mem_cons, List.mem_singleton] at h
        rcases h with rfl | rfl | rfl | rfl <;> rw [UInt8.toNat_ofNat'] at hb' <;> omega

theorem utf8EncodeChar_of_toNat_eq {c : Char} {b : UInt8} (hb : b < 0x80)
    (h : c.toNat = b.toNat) : String.utf8EncodeChar c = [b] := by
  have hb' : b.toNat < 128 := hb
  have hc : c.val.toNat = b.toNat := h
  rw [String.utf8EncodeChar, hc, if_pos (by omega)]
  simp

theorem mem_of_mem_ofText {cs : List Char} {c : Char} (hc : c.toNat < 128)
    (h : c.toNat.toUInt8 ∈ ofText (String.ofList cs)) : c ∈ cs := by
  rw [ofText_ofList] at h
  obtain ⟨c', hc', hb⟩ := List.mem_flatMap.1 h
  have hbyte : c.toNat.toUInt8.toNat = c.toNat := by
    rw [Nat.toUInt8, UInt8.toNat_ofNat']
    omega
  have hsmall : c.toNat.toUInt8 < 0x80 := by
    rw [UInt8.lt_iff_toNat_lt, hbyte]
    exact hc
  have hsame := toNat_of_mem_utf8EncodeChar hb hsmall
  rw [hbyte] at hsame
  rwa [Char.toNat_inj.1 hsame] at hc'

/-- The text of bytes that are characters of their own. -/
def asciiText (bs : Bytes) : String := String.ofList (bs.map fun b => Char.ofNat b.toNat)

theorem toNat_ofNat {n : Nat} (h : n < 128) : (Char.ofNat n).toNat = n := by
  rw [Char.ofNat, dif_pos (.inl (by omega))]
  rfl

theorem ofNat_ne {n : Nat} {c : Char} (h : n < 128) (hc : n ≠ c.toNat) : Char.ofNat n ≠ c := by
  rintro rfl
  exact hc (toNat_ofNat h).symm

theorem ofText_asciiText {bs : Bytes} (h : ∀ b ∈ bs, b < 0x80) : ofText (asciiText bs) = bs := by
  rw [asciiText, ofText_ofList, List.flatMap_map]
  induction bs with
  | nil => rfl
  | cons b bs ih =>
    obtain ⟨hb, hbs⟩ := List.forall_mem_cons.1 h
    have hb' : b.toNat < 128 := hb
    have hn : (Char.ofNat b.toNat).val.toNat = b.toNat := toNat_ofNat hb'
    rw [List.flatMap_cons, ih hbs, String.utf8EncodeChar, hn, if_pos (by omega)]
    simp

theorem toText?_ascii {bs : Bytes} (h : ∀ b ∈ bs, b < 0x80) : toText? bs = some (asciiText bs) := by
  have htext := toText?_ofText (asciiText bs)
  rwa [ofText_asciiText h] at htext

end HostRegistry.Bytes
