import HostRegistry.Proofs.Json.Text

/-!
# The grammar of JSON

Which bytes are a JSON value, whatever reads them: words, numbers and texts, and lists and objects
with blanks anywhere between their parts. The escapes in a text need not name characters, and the
names in an object need not differ.
-/

namespace HostRegistry.Json

def Blanks (bytes : Bytes) : Prop := ∀ b ∈ bytes, isBlank b = true

/-! ## Words, numbers and texts -/

def null : Bytes := [0x6E, 0x75, 0x6C, 0x6C]

def words : List Bytes := [null, [0x74, 0x72, 0x75, 0x65], [0x66, 0x61, 0x6C, 0x73, 0x65]]

def Digits (bytes : Bytes) : Prop := bytes ≠ [] ∧ ∀ b ∈ bytes, isDigit b = true

/-- A whole number begins with a zero only if it is zero. -/
def IsWhole (bytes : Bytes) : Prop := bytes = [0x30] ∨ Digits bytes ∧ bytes.head? ≠ some 0x30

def IsFraction (bytes : Bytes) : Prop :=
  bytes = [] ∨ ∃ places, Digits places ∧ bytes = 0x2E :: places

def IsExponent (bytes : Bytes) : Prop :=
  bytes = [] ∨ ∃ letter sign digits, isExponentLetter letter = true ∧
    sign ∈ [[], [0x2B], [0x2D]] ∧ Digits digits ∧ bytes = letter :: (sign ++ digits)

def IsNumber (bytes : Bytes) : Prop :=
  ∃ sign whole fraction exponent : Bytes, sign ∈ [[], [0x2D]] ∧ IsWhole whole ∧
    IsFraction fraction ∧ IsExponent exponent ∧
    bytes = sign ++ (whole ++ (fraction ++ exponent))

/-- What stands between the quotes of a text. -/
inductive IsTextBody : Bytes → Prop
  | nil : IsTextBody []
  | plain {b : UInt8} {rest : Bytes} (hquote : b ≠ 0x22) (hslash : b ≠ 0x5C) (hcontrol : ¬b < 0x20)
      (hrest : IsTextBody rest) : IsTextBody (b :: rest)
  | short {b : UInt8} {rest : Bytes} (hshort : (shortEscape? b).isSome = true)
      (hrest : IsTextBody rest) : IsTextBody (0x5C :: b :: rest)
  | code {digits : Bytes} {rest : Bytes} (hlength : digits.length = 4)
      (hdigits : ∀ d ∈ digits, (hexValue? d).isSome = true) (hrest : IsTextBody rest) :
      IsTextBody (0x5C :: 0x75 :: (digits ++ rest))

def IsText (bytes : Bytes) : Prop := ∃ body, IsTextBody body ∧ bytes = 0x22 :: (body ++ [0x22])

/-! ## Lists and objects -/

/-- What stands behind one of the pieces of a list or object: the other pieces, each behind a comma,
and the closing byte. -/
inductive Behind (closing : UInt8) : List Bytes → Bytes → Prop
  | closing {blanks : Bytes} (hblanks : Blanks blanks) : Behind closing [] (blanks ++ [closing])
  | comma {blanks blanks' piece rest : Bytes} {pieces : List Bytes} (hblanks : Blanks blanks)
      (hblanks' : Blanks blanks') (hrest : Behind closing pieces rest) :
      Behind closing (piece :: pieces) (blanks ++ comma :: (blanks' ++ (piece ++ rest)))

/-- The pieces stand between an opening and a closing byte. -/
inductive Encloses (opening closing : UInt8) : List Bytes → Bytes → Prop
  | nothing {blanks : Bytes} (hblanks : Blanks blanks) :
      Encloses opening closing [] (opening :: (blanks ++ [closing]))
  | pieces {blanks piece rest : Bytes} {pieces : List Bytes} (hblanks : Blanks blanks)
      (hrest : Behind closing pieces rest) :
      Encloses opening closing (piece :: pieces) (opening :: (blanks ++ (piece ++ rest)))

abbrev IsList : List Bytes → Bytes → Prop := Encloses 0x5B 0x5D

/-- A name and a value, and the blanks around the colon between them. -/
structure Member where
  name : Bytes
  beforeColon : Bytes
  afterColon : Bytes
  value : Bytes

namespace Member

def text (m : Member) : Bytes := m.name ++ (m.beforeColon ++ 0x3A :: (m.afterColon ++ m.value))

structure Proper (m : Member) : Prop where
  name : IsText m.name
  beforeColon : Blanks m.beforeColon
  afterColon : Blanks m.afterColon

end Member

abbrev HasMembers (members : List Member) : Bytes → Prop :=
  Encloses 0x7B 0x7D (members.map Member.text)

inductive IsValue : Bytes → Prop
  | word {bytes : Bytes} (hword : bytes ∈ words) : IsValue bytes
  | number {bytes : Bytes} (hnumber : IsNumber bytes) : IsValue bytes
  | text {bytes : Bytes} (htext : IsText bytes) : IsValue bytes
  | list {items : List Bytes} {bytes : Bytes} (hlist : IsList items bytes)
      (hitems : ∀ item ∈ items, IsValue item) : IsValue bytes
  | object {members : List Member} {bytes : Bytes} (hobject : HasMembers members bytes)
      (hproper : ∀ m ∈ members, m.Proper) (hvalues : ∀ m ∈ members, IsValue m.value) :
      IsValue bytes

/-! ## The byte that a value begins with -/

/-- The byte begins no text, list or object, and ends none. -/
def Plain (b : UInt8) : Prop :=
  isBlank b = false ∧ b ≠ 0x22 ∧ b ≠ 0x5B ∧ b ≠ 0x7B ∧ b ≠ 0x5D ∧ b ≠ 0x7D

instance (b : UInt8) : Decidable (Plain b) := inferInstanceAs (Decidable (_ ∧ _))

theorem ne_of_isDigit {b c : UInt8} (hb : isDigit b = true) (hc : isDigit c = false) : b ≠ c := by
  intro h
  rw [h, hc] at hb
  cases hb

theorem plain_of_isDigit {b : UInt8} (h : isDigit b = true) : Plain b := by
  have hblank : isBlank b = false := by
    have hne : b ≠ 0x20 ∧ b ≠ 0x0A ∧ b ≠ 0x09 ∧ b ≠ 0x0D :=
      ⟨ne_of_isDigit h rfl, ne_of_isDigit h rfl, ne_of_isDigit h rfl, ne_of_isDigit h rfl⟩
    simp [isBlank, hne]
  exact ⟨hblank, ne_of_isDigit h rfl, ne_of_isDigit h rfl, ne_of_isDigit h rfl,
    ne_of_isDigit h rfl, ne_of_isDigit h rfl⟩

theorem begins_of_mem_words {bytes : Bytes} (h : bytes ∈ words) :
    ∃ b tail, bytes = b :: tail ∧ Plain b := by
  simp only [words, List.mem_cons, List.not_mem_nil, or_false] at h
  rcases h with rfl | rfl | rfl <;> exact ⟨_, _, rfl, by decide⟩

theorem IsWhole.begins {bytes : Bytes} (h : IsWhole bytes) :
    ∃ b tail, bytes = b :: tail ∧ isDigit b = true := by
  rcases h with rfl | ⟨⟨hne, hall⟩, -⟩
  · exact ⟨0x30, [], rfl, rfl⟩
  · obtain ⟨b, tail, rfl⟩ := List.exists_cons_of_ne_nil hne
    exact ⟨b, tail, rfl, hall b (.head _)⟩

theorem IsNumber.begins {bytes : Bytes} (h : IsNumber bytes) :
    ∃ b tail, bytes = b :: tail ∧ Plain b := by
  obtain ⟨sign, whole, fraction, exponent, hsign, hwhole, -, -, rfl⟩ := h
  obtain ⟨b, tail, rfl, hb⟩ := hwhole.begins
  simp only [List.mem_cons, List.not_mem_nil, or_false] at hsign
  rcases hsign with rfl | rfl
  · exact ⟨b, _, rfl, plain_of_isDigit hb⟩
  · exact ⟨0x2D, _, rfl, by decide⟩

theorem Encloses.begins {opening closing : UInt8} {pieces : List Bytes} {bytes : Bytes}
    (h : Encloses opening closing pieces bytes) : ∃ tail, bytes = opening :: tail := by
  cases h <;> exact ⟨_, rfl⟩

namespace IsValue

variable {bytes tail : Bytes}

/-- A value begins with the byte that tells its kind. -/
theorem kinds (h : IsValue bytes) :
    (∃ b tail, bytes = b :: tail ∧ Plain b) ∨ IsText bytes ∨
    (∃ items, IsList items bytes ∧ ∀ item ∈ items, IsValue item) ∨
    (∃ members, HasMembers members bytes ∧ (∀ m ∈ members, m.Proper) ∧
      ∀ m ∈ members, IsValue m.value) := by
  cases h with
  | word hword => exact .inl (begins_of_mem_words hword)
  | number hnumber => exact .inl hnumber.begins
  | text htext => exact .inr (.inl htext)
  | list hlist hitems => exact .inr (.inr (.inl ⟨_, hlist, hitems⟩))
  | object hobject hproper hvalues => exact .inr (.inr (.inr ⟨_, hobject, hproper, hvalues⟩))

theorem begins (h : IsValue bytes) :
    ∃ b tail, bytes = b :: tail ∧ isBlank b = false ∧ b ≠ 0x5D ∧ b ≠ 0x7D := by
  rcases h.kinds with ⟨b, tail, rfl, hb⟩ | ⟨_, -, rfl⟩ | ⟨_, hlist, -⟩ | ⟨_, hobject, -⟩
  · exact ⟨b, tail, rfl, hb.1, hb.2.2.2.2.1, hb.2.2.2.2.2⟩
  · exact ⟨0x22, _, rfl, by decide⟩
  · obtain ⟨tail, rfl⟩ := hlist.begins
    exact ⟨0x5B, tail, rfl, by decide⟩
  · obtain ⟨tail, rfl⟩ := hobject.begins
    exact ⟨0x7B, tail, rfl, by decide⟩

end IsValue

end HostRegistry.Json
