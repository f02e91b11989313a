import HostRegistry.Proofs.Bytes
import HostRegistry.Proofs.Json.Grammar

/-!
# The ways to write a text

A character of a text may be written as itself or escaped, by its short form or by its code, in
digits of either case, and beyond the first 65536 characters by a pair of codes. However its
characters are written, the text is read as the same one.
-/

namespace HostRegistry.Json

/-- Four hexadecimal digits and the number that they make up. -/
inductive IsCode : Bytes → Nat → Prop
  | digits {a b c d : UInt8} {x y z w : Nat} (ha : hexValue? a = some x)
      (hb : hexValue? b = some y) (hc : hexValue? c = some z) (hd : hexValue? d = some w) :
      IsCode [a, b, c, d] (((x * 16 + y) * 16 + z) * 16 + w)

/-- The bytes between quotes write out the characters. -/
inductive SpellsBody : List Char → Bytes → Prop
  | nil : SpellsBody [] []
  | plain {c : Char} {cs : List Char} {rest : Bytes} (hquote : c.toNat ≠ 0x22)
      (hslash : c.toNat ≠ 0x5C) (hcontrol : 0x20 ≤ c.toNat) (hrest : SpellsBody cs rest) :
      SpellsBody (c :: cs) (String.utf8EncodeChar c ++ rest)
  | short {c : Char} {cs : List Char} {b e : UInt8} {rest : Bytes}
      (hshort : shortEscape? e = some b) (hc : c.toNat = b.toNat) (hrest : SpellsBody cs rest) :
      SpellsBody (c :: cs) (0x5C :: e :: rest)
  | code {c : Char} {cs : List Char} {digits rest : Bytes} (hcode : IsCode digits c.toNat)
      (hrest : SpellsBody cs rest) :
      SpellsBody (c :: cs) (0x5C :: 0x75 :: (digits ++ rest))
  | pair {c : Char} {cs : List Char} {x y : Nat} {high low rest : Bytes} (hx : x < 0x400)
      (hy : y < 0x400) (hc : c.toNat = 0x10000 + x * 0x400 + y) (hhigh : IsCode high (0xD800 + x))
      (hlow : IsCode low (0xDC00 + y)) (hrest : SpellsBody cs rest) :
      SpellsBody (c :: cs) (0x5C :: 0x75 :: (high ++ 0x5C :: 0x75 :: (low ++ rest)))

def Spells (s : String) (token : Bytes) : Prop :=
  ∃ body, SpellsBody s.toList body ∧ token = 0x22 :: (body ++ [0x22])

/-! ## What is spelled is a text -/

theorem isTextBody_append {bytes rest : Bytes}
    (h : ∀ b ∈ bytes, b ≠ 0x22 ∧ b ≠ 0x5C ∧ ¬b < 0x20) (hrest : IsTextBody rest) :
    IsTextBody (bytes ++ rest) := by
  induction bytes with
  | nil => exact hrest
  | cons b bytes ih =>
    obtain ⟨⟨hquote, hslash, hcontrol⟩, hbytes⟩ := List.forall_mem_cons.1 h
    exact .plain hquote hslash hcontrol (ih hbytes)

/-- The bytes of a character that is no quote, no backslash and no control character are none
either. -/
theorem plain_of_mem_utf8EncodeChar {c : Char} (hquote : c.toNat ≠ 0x22) (hslash : c.toNat ≠ 0x5C)
    (hcontrol : 0x20 ≤ c.toNat) {b : UInt8} (hb : b ∈ String.utf8EncodeChar c) :
    b ≠ 0x22 ∧ b ≠ 0x5C ∧ ¬b < 0x20 := by
  refine ⟨?_, ?_, ?_⟩
  · rintro rfl
    exact hquote (Bytes.toNat_of_mem_utf8EncodeChar hb (by decide))
  · rintro rfl
    exact hslash (Bytes.toNat_of_mem_utf8EncodeChar hb (by decide))
  · intro hlt
    have hlt' : b.toNat < 0x20 := hlt
    have hsmall : b < 0x80 := UInt8.lt_iff_toNat_lt.2 (Nat.lt_trans hlt' (by decide))
    have hsame := Bytes.toNat_of_mem_utf8EncodeChar hb hsmall
    omega

theorem IsCode.length {digits : Bytes} {n : Nat} (h : IsCode digits n) : digits.length = 4 := by
  cases h
  rfl

theorem IsCode.isHex {digits : Bytes} {n : Nat} (h : IsCode digits n) :
    ∀ d ∈ digits, (hexValue? d).isSome = true := by
  cases h with
  | digits ha hb hc hd => simp [ha, hb, hc, hd]

theorem SpellsBody.isTextBody {cs : List Char} {body : Bytes} (h : SpellsBody cs body) :
    IsTextBody body := by
  induction h with
  | nil => exact .nil
  | plain hquote hslash hcontrol _ ih =>
    exact isTextBody_append (fun _ => plain_of_mem_utf8EncodeChar hquote hslash hcontrol) ih
  | short hshort _ _ ih => exact .short (by rw [hshort]; rfl) ih
  | code hcode _ ih => exact .code hcode.length hcode.isHex ih
  | pair _ _ _ hhigh hlow _ ih =>
    exact .code hhigh.length hhigh.isHex (.code hlow.length hlow.isHex ih)

theorem Spells.isText {s : String} {token : Bytes} (h : Spells s token) : IsText token := by
  obtain ⟨body, hbody, rfl⟩ := h
  exact ⟨body, hbody.isTextBody, rfl⟩

/-! ## What is spelled is read -/

theorem readHex4_code {digits : Bytes} {n : Nat} (h : IsCode digits n) (rest : Bytes) :
    readHex4 (digits ++ rest) = .ok (n, rest) := by
  cases h with
  | digits ha hb hc hd => simp [readHex4, ha, hb, hc, hd]

theorem not_surrogate (c : Char) :
    isTrailingSurrogate c.toNat = false ∧ isLeadingSurrogate c.toNat = false := by
  have hvalid := c.valid
  have hc : c.val.toNat = c.toNat := rfl
  simp only [UInt32.isValidChar, Nat.isValidChar, hc] at hvalid
  simp [isTrailingSurrogate, isLeadingSurrogate]
  omega

theorem readEscape_code {c : Char} {digits : Bytes} (h : IsCode digits c.toNat) (rest : Bytes) :
    readEscape (0x75 :: (digits ++ rest)) = .ok (String.utf8EncodeChar c, rest) := by
  obtain ⟨htrailing, hleading⟩ := not_surrogate c
  rw [readEscape, if_pos rfl, readHex4_code h]
  simp only [bind, Except.bind, htrailing, hleading, encodeCodePoint, Char.ofNat_toNat]
  rfl

theorem readEscape_pair {c : Char} {x y : Nat} {high low : Bytes} (hx : x < 0x400)
    (hy : y < 0x400) (hc : c.toNat = 0x10000 + x * 0x400 + y) (hhigh : IsCode high (0xD800 + x))
    (hlow : IsCode low (0xDC00 + y)) (rest : Bytes) :
    readEscape (0x75 :: (high ++ 0x5C :: 0x75 :: (low ++ rest))) =
      .ok (String.utf8EncodeChar c, rest) := by
  have hleading : isTrailingSurrogate (0xD800 + x) = false ∧
      isLeadingSurrogate (0xD800 + x) = true := by
    simp only [isTrailingSurrogate, isLeadingSurrogate, Bool.and_eq_false_iff, Bool.and_eq_true,
      decide_eq_false_iff_not, decide_eq_true_eq]
    omega
  have htrailing : isTrailingSurrogate (0xDC00 + y) = true := by
    simp only [isTrailingSurrogate, Bool.and_eq_true, decide_eq_true_eq]
    omega
  have hpair : 0x10000 + (0xD800 + x - 0xD800) * 0x400 + (0xDC00 + y - 0xDC00) = c.toNat := by
    omega
  have hread : readTrailingSurrogate (0xD800 + x) (0x5C :: 0x75 :: (low ++ rest)) =
      .ok (String.utf8EncodeChar c, rest) := by
    rw [readTrailingSurrogate, if_neg (by decide)]
    simp only [ne_eq, not_true_eq_false, if_false, readHex4_code hlow, bind, Except.bind,
      htrailing, if_true, hpair, encodeCodePoint, Char.ofNat_toNat]
    rfl
  rw [readEscape, if_pos rfl, readHex4_code hhigh]
  simp only [bind, Except.bind, hleading.1, hleading.2, hread]
  rfl

theorem readEscape_shortEscape {c : Char} {b e : UInt8} (h : shortEscape? e = some b)
    (hc : c.toNat = b.toNat) (rest : Bytes) :
    readEscape (e :: rest) = .ok (String.utf8EncodeChar c, rest) := by
  have he : e ≠ 0x75 := by
    rintro rfl
    cases h
  have hb : b < 0x80 := by
    simp only [shortEscape?] at h
    repeat' split at h
    all_goals cases h <;> decide
  rw [readEscape, if_neg he, h, Bytes.utf8EncodeChar_of_toNat_eq hb hc]

/-- An escape at the front of the input is read as its character. -/
theorem readTextBytes_escape {fuel : Nat} {escape bytes rest more behind : Bytes}
    (hescape : readEscape (escape ++ rest) = .ok (bytes, rest))
    (h : readTextBytes fuel rest = .ok (more, behind)) :
    readTextBytes (fuel + 1) (0x5C :: (escape ++ rest)) = .ok (bytes ++ more, behind) := by
  rw [readTextBytes, if_neg (by decide), if_pos rfl, hescape]
  simp only [bind, Except.bind, h]
  rfl

theorem readTextBytes_plain {fuel : Nat} {bytes rest more behind : Bytes}
    (hplain : ∀ b ∈ bytes, b ≠ 0x22 ∧ b ≠ 0x5C ∧ ¬b < 0x20)
    (h : readTextBytes fuel rest = .ok (more, behind)) :
    readTextBytes (fuel + bytes.length) (bytes ++ rest) = .ok (bytes ++ more, behind) := by
  induction bytes with
  | nil => exact h
  | cons b bytes ih =>
    obtain ⟨⟨hquote, hslash, hcontrol⟩, hbytes⟩ := List.forall_mem_cons.1 hplain
    rw [List.length_cons, ← Nat.add_assoc, List.cons_append, readTextBytes, if_neg hquote,
      if_neg hslash, if_neg hcontrol, ih hbytes]
    rfl

theorem readTextBytes_body {cs : List Char} {body : Bytes} (h : SpellsBody cs body) {fuel : Nat}
    (hfuel : body.length < fuel) (rest : Bytes) :
    readTextBytes fuel (body ++ 0x22 :: rest) =
      .ok (cs.flatMap String.utf8EncodeChar, rest) := by
  induction h generalizing fuel with
  | nil =>
    obtain ⟨fuel, rfl⟩ := Nat.exists_eq_add_one.2 hfuel
    rfl
  | @plain c cs body hquote hslash hcontrol _ ih =>
    rw [List.length_append] at hfuel
    obtain ⟨fuel, rfl⟩ := Nat.exists_eq_add_of_le (Nat.le_of_lt (Nat.lt_of_le_of_lt
      (Nat.le_add_right (String.utf8EncodeChar c).length body.length) hfuel))
    rw [Nat.add_comm, List.append_assoc, List.flatMap_cons]
    exact readTextBytes_plain
      (fun _ => plain_of_mem_utf8EncodeChar hquote hslash hcontrol) (ih (by omega))
  | @short c cs b e body hshort hc _ ih =>
    simp only [List.length_cons] at hfuel
    obtain ⟨fuel, rfl⟩ := Nat.exists_eq_add_one.2 (Nat.zero_lt_of_lt hfuel)
    rw [List.flatMap_cons]
    have hescape : readEscape ([e] ++ (body ++ 0x22 :: rest)) =
        .ok (String.utf8EncodeChar c, body ++ 0x22 :: rest) := readEscape_shortEscape hshort hc _
    have hmore := ih (show body.length < fuel by omega)
    simpa using readTextBytes_escape hescape hmore
  | @code c cs digits body hcode _ ih =>
    simp only [List.length_cons, List.length_append] at hfuel
    obtain ⟨fuel, rfl⟩ := Nat.exists_eq_add_one.2 (Nat.zero_lt_of_lt hfuel)
    rw [List.flatMap_cons]
    have hmore := ih (show body.length < fuel by omega)
    have hescape : readEscape ((0x75 :: digits) ++ (body ++ 0x22 :: rest)) =
        .ok (String.utf8EncodeChar c, body ++ 0x22 :: rest) := readEscape_code hcode _
    simpa using readTextBytes_escape hescape hmore
  | @pair c cs x y high low body hx hy hc hhigh hlow _ ih =>
    simp only [List.length_cons, List.length_append] at hfuel
    obtain ⟨fuel, rfl⟩ := Nat.exists_eq_add_one.2 (Nat.zero_lt_of_lt hfuel)
    rw [List.flatMap_cons]
    have hmore := ih (show body.length < fuel by omega)
    have hescape : readEscape ((0x75 :: (high ++ 0x5C :: 0x75 :: low)) ++ (body ++ 0x22 :: rest)) =
        .ok (String.utf8EncodeChar c, body ++ 0x22 :: rest) := by
      simpa using readEscape_pair hx hy hc hhigh hlow (body ++ 0x22 :: rest)
    simpa using readTextBytes_escape hescape hmore

/-- However a text is spelled, it is read as the same text. -/
theorem Spells.readQuoted {s : String} {token : Bytes} (h : Spells s token) :
    ∃ tail, token = 0x22 :: tail ∧ ∀ rest, Json.readQuoted (tail ++ rest) = .ok (s, rest) := by
  obtain ⟨body, hbody, rfl⟩ := h
  refine ⟨body ++ [0x22], rfl, fun rest => ?_⟩
  have hread : readTextBytes (body ++ 0x22 :: rest).length (body ++ 0x22 :: rest) =
      .ok (Bytes.ofText s, rest) := by
    rw [readTextBytes_body hbody (by simp only [List.length_append, List.length_cons]; omega),
      ← Bytes.ofText_ofList, String.ofList_toList]
  rw [List.append_assoc, List.singleton_append]
  simp only [Json.readQuoted, hread, bind, Except.bind, Bytes.toText?_ofText]
  rfl

theorem Spells.reads {s : String} {token : Bytes} (h : Spells s token) :
    Reads readText token s := by
  obtain ⟨tail, rfl, hread⟩ := h.readQuoted
  refine ⟨⟨0x22, tail, rfl, by decide, by decide⟩, fun blanks rest hblanks => ?_⟩
  rw [List.cons_append, readText, skipBlanks_append_cons hblanks (by decide)]
  exact hread rest

/-! ## What is written is spelled -/

/-- The digits of a control character name it. -/
theorem control_digits (n : Fin 32) :
    hexValue? (hexDigit (n.val.toUInt8 >>> 4)) = some (n.val / 16) ∧
      hexValue? (hexDigit (n.val.toUInt8 &&& 0x0F)) = some (n.val % 16) ∧
      isTrailingSurrogate n.val = false ∧ isLeadingSurrogate n.val = false ∧
      encodeCodePoint n.val = [n.val.toUInt8] := by
  revert n
  decide

theorem isCode_control {b : UInt8} (h : b < 0x20) :
    IsCode [0x30, 0x30, hexDigit (b >>> 4), hexDigit (b &&& 0x0F)] b.toNat := by
  have hlt : b.toNat < 32 := h
  have hb : b.toNat.toUInt8 = b := by simp
  obtain ⟨hhigh, hlow, -⟩ := control_digits ⟨b.toNat, hlt⟩
  rw [hb] at hhigh hlow
  have hzero : hexValue? 0x30 = some 0 := by decide
  have hvalue : ((0 * 16 + 0) * 16 + b.toNat / 16) * 16 + b.toNat % 16 = b.toNat := by omega
  rw [← hvalue]
  exact .digits hzero hzero hhigh hlow

/-- A character that is a single byte is written by a short escape, by its code or as itself. -/
theorem spells_escapeByte {c : Char} {cs : List Char} {b : UInt8} {rest : Bytes}
    (hc : c.toNat = b.toNat) (hencoded : String.utf8EncodeChar c = [b])
    (h : SpellsBody cs rest) : SpellsBody (c :: cs) (escapeByte b ++ rest) := by
  rw [escapeByte]
  iterate 7
    split
    next hb => exact .short (by rw [hb]; rfl) hc h
  split
  next hcontrol =>
    have hcode := isCode_control hcontrol
    rw [← hc] at hcode
    exact .code hcode h
  next hquote hslash _ _ _ _ _ hcontrol =>
    rw [← hencoded]
    refine .plain ?_ ?_ ?_ h
    · intro h22
      exact hquote (UInt8.toNat_inj.1 (hc.symm.trans h22))
    · intro h5c
      exact hslash (UInt8.toNat_inj.1 (hc.symm.trans h5c))
    · have hle : 0x20 ≤ b.toNat := Nat.le_of_not_lt hcontrol
      omega

/-- What needs no escape is written as it is. -/
theorem flatMap_escapeByte_of_plain {bytes : Bytes}
    (h : ∀ b ∈ bytes, b ≠ 0x22 ∧ b ≠ 0x5C ∧ ¬b < 0x20) : bytes.flatMap escapeByte = bytes := by
  induction bytes with
  | nil => rfl
  | cons b bytes ih =>
    obtain ⟨⟨hquote, hslash, hcontrol⟩, hbytes⟩ := List.forall_mem_cons.1 h
    have hne : ∀ c : UInt8, c < 0x20 → b ≠ c := by
      intro c hc hb
      rw [hb] at hcontrol
      exact hcontrol hc
    rw [List.flatMap_cons, ih hbytes, escapeByte, if_neg hquote, if_neg hslash,
      if_neg (hne _ (by decide)), if_neg (hne _ (by decide)), if_neg (hne _ (by decide)),
      if_neg (hne _ (by decide)), if_neg (hne _ (by decide)), if_neg hcontrol]
    rfl

/-- The writer's way to write a text is one of the ways to spell it. -/
theorem spells_quoted (s : String) : Spells s (quoted s) := by
  have hbody : ∀ cs : List Char,
      SpellsBody cs ((cs.flatMap String.utf8EncodeChar).flatMap escapeByte) := by
    intro cs
    induction cs with
    | nil => exact .nil
    | cons c cs ih =>
      rw [List.flatMap_cons, List.flatMap_append]
      by_cases hc : c.toNat < 0x80
      · have hbyte : c.toNat.toUInt8.toNat = c.toNat := by
          rw [Nat.toUInt8, UInt8.toNat_ofNat']
          omega
        have hencoded : String.utf8EncodeChar c = [c.toNat.toUInt8] :=
          Bytes.utf8EncodeChar_of_toNat_eq (by rw [UInt8.lt_iff_toNat_lt, hbyte]; exact hc)
            hbyte.symm
        rw [hencoded, List.flatMap_singleton]
        exact spells_escapeByte hbyte.symm hencoded ih
      · have hquote : c.toNat ≠ 0x22 := by omega
        have hslash : c.toNat ≠ 0x5C := by omega
        have hcontrol : 0x20 ≤ c.toNat := by omega
        rw [flatMap_escapeByte_of_plain
          fun _ => plain_of_mem_utf8EncodeChar hquote hslash hcontrol]
        exact .plain hquote hslash hcontrol ih
  refine ⟨(Bytes.ofText s).flatMap escapeByte, ?_, rfl⟩
  have hs := hbody s.toList
  rwa [← Bytes.ofText_ofList, String.ofList_toList] at hs

theorem reads_quoted (s : String) : Reads readText (quoted s) s := (spells_quoted s).reads

end HostRegistry.Json
