import HostRegistry.Proofs.Json.Grammar
import HostRegistry.Proofs.Json.Struct

/-!
# Passing over values

Whatever a value is and however deep it is nested, passing over it ends right behind it. Only a
number does not show where it ends, so no byte that could belong to it may follow.
-/

namespace HostRegistry.Json

/-! ## Numbers -/

/-- No byte of the kind comes next. -/
def NotAhead (p : UInt8 → Bool) (rest : Bytes) : Prop := ∀ b ∈ rest.head?, p b = false

/-- A byte that a number may go on with. -/
def continuesNumber (b : UInt8) : Bool := isDigit b || b = 0x2E || isExponentLetter b

/-- A number ends here. -/
abbrev Delimited : Bytes → Prop := NotAhead continuesNumber

theorem notAhead_cons {p : UInt8 → Bool} {b : UInt8} {rest : Bytes} (h : p b = false) :
    NotAhead p (b :: rest) := by
  intro b' hb'
  cases hb'
  exact h

theorem takeWhile_append_of_notAhead {p : UInt8 → Bool} {bytes rest : Bytes}
    (h : ∀ b ∈ bytes, p b = true) (hrest : NotAhead p rest) :
    (bytes ++ rest).takeWhile p = bytes := by
  rw [List.takeWhile_append_of_pos h]
  cases rest with
  | nil => simp
  | cons b rest => simp [hrest b rfl]

theorem dropWhile_append_of_notAhead {p : UInt8 → Bool} {bytes rest : Bytes}
    (h : ∀ b ∈ bytes, p b = true) (hrest : NotAhead p rest) :
    (bytes ++ rest).dropWhile p = rest := by
  rw [List.dropWhile_append_of_pos h]
  cases rest with
  | nil => rfl
  | cons b rest => simp [hrest b rfl]

section Number

variable {bytes rest : Bytes}

theorem Delimited.notDigit (h : Delimited rest) : NotAhead isDigit rest := by
  intro b hb
  have hcontinues := h b hb
  simp only [continuesNumber, Bool.or_eq_false_iff] at hcontinues
  exact hcontinues.1.1

theorem Digits.begins (h : Digits bytes) : ∃ b tail, bytes = b :: tail ∧ isDigit b = true := by
  obtain ⟨b, tail, rfl⟩ := List.exists_cons_of_ne_nil h.1
  exact ⟨b, tail, rfl, h.2 b (.head _)⟩

/-- The digits of an exponent are passed over behind its sign. -/
theorem skipExponent_digits {sign : Bytes} (hsign : sign ∈ [[], [0x2B], [0x2D]])
    (hdigits : Digits bytes) (hrest : NotAhead isDigit rest) :
    skipExponent (sign ++ (bytes ++ rest)) = .ok rest := by
  have htake := takeWhile_append_of_notAhead hdigits.2 hrest
  have hdrop := dropWhile_append_of_notAhead hdigits.2 hrest
  have hsome : ¬ bytes.isEmpty = true := fun h => hdigits.1 (List.isEmpty_iff.1 h)
  simp only [List.mem_cons, List.not_mem_nil, or_false] at hsign
  rcases hsign with rfl | rfl | rfl
  · obtain ⟨b, tail, rfl, hb⟩ := hdigits.begins
    have hplus : ∀ more, b :: tail ++ rest = 0x2B :: more → False := by
      intro more h
      exact ne_of_isDigit (c := 0x2B) hb rfl (List.cons.inj h).1
    have hminus : ∀ more, b :: tail ++ rest = 0x2D :: more → False := by
      intro more h
      exact ne_of_isDigit (c := 0x2D) hb rfl (List.cons.inj h).1
    simp only [skipExponent, List.nil_append, htake, hdrop, if_neg hsome]
  · simp only [skipExponent, List.singleton_append, htake, hdrop, if_neg hsome]
  · simp only [skipExponent, List.singleton_append, htake, hdrop, if_neg hsome]

/-- Where an exponent may stand, the number ends, or a byte tells whether there is one. -/
theorem IsExponent.next (h : IsExponent bytes) (hrest : Delimited rest) :
    (bytes ++ rest = [] ∧ rest = []) ∨
    ∃ b tail, bytes ++ rest = b :: tail ∧ isDigit b = false ∧ b ≠ 0x2E ∧
      (if isExponentLetter b = true then skipExponent tail else .ok (b :: tail)) = .ok rest := by
  rcases h with rfl | ⟨letter, sign, digits, hletter, hsign, hdigits, rfl⟩
  · cases rest with
    | nil => exact .inl ⟨rfl, rfl⟩
    | cons b tail =>
      have hb := hrest b rfl
      simp only [continuesNumber, Bool.or_eq_false_iff, decide_eq_false_iff_not] at hb
      exact .inr ⟨b, tail, rfl, hb.1.1, hb.1.2, if_neg (by simp [hb.2])⟩
  · refine .inr ⟨letter, sign ++ (digits ++ rest), by simp, ?_, ?_, ?_⟩
    · simp only [isExponentLetter, Bool.or_eq_true, decide_eq_true_eq] at hletter
      rcases hletter with rfl | rfl <;> rfl
    · rintro rfl
      cases hletter
    · rw [if_pos hletter, skipExponent_digits hsign hdigits hrest.notDigit]

theorem IsExponent.notDigit (h : IsExponent bytes) (hrest : Delimited rest) :
    NotAhead isDigit (bytes ++ rest) := by
  rcases h.next hrest with ⟨hnil, -⟩ | ⟨b, tail, hcons, hb, -⟩
  · rw [hnil]
    intro b hb
    cases hb
  · rw [hcons]
    exact notAhead_cons hb

theorem skipNumber_whole (h : IsWhole bytes) {fraction exponent : Bytes}
    (hfraction : IsFraction fraction) (hexponent : IsExponent exponent) (hrest : Delimited rest) :
    skipNumber (bytes ++ (fraction ++ (exponent ++ rest))) = .ok rest := by
  have hdigits : ∀ b ∈ bytes, isDigit b = true := by
    rcases h with rfl | ⟨⟨-, hall⟩, -⟩
    · simp; decide
    · exact hall
  have hahead : NotAhead isDigit (fraction ++ (exponent ++ rest)) := by
    rcases hfraction with rfl | ⟨places, -, rfl⟩
    · exact hexponent.notDigit hrest
    · exact notAhead_cons rfl
  obtain ⟨b, tail, rfl, -⟩ := h.begins
  have hzero : ¬(b = 0x30 ∧ tail ≠ []) := by
    rintro ⟨rfl, htail⟩
    rcases h with h | ⟨-, h⟩
    · exact htail (List.cons.inj h).2
    · exact h rfl
  rw [skipNumber, takeWhile_append_of_notAhead hdigits hahead,
    dropWhile_append_of_notAhead hdigits hahead]
  simp only [if_neg hzero]
  rcases hfraction with rfl | ⟨places, hplaces, rfl⟩
  · rw [List.nil_append]
    rcases hexponent.next hrest with ⟨hnil, rfl⟩ | ⟨c, more, hcons, -, hpoint, hnext⟩
    · rw [hnil]
    · rw [hcons]
      split
      next h => exact absurd (List.cons.inj h).1 hpoint
      next h =>
        cases h
        exact hnext
      next h => cases h
  · have hsome : ¬ places.isEmpty = true := fun h => hplaces.1 (List.isEmpty_iff.1 h)
    have hbehind := hexponent.notDigit hrest
    simp only [List.cons_append, takeWhile_append_of_notAhead hplaces.2 hbehind,
      dropWhile_append_of_notAhead hplaces.2 hbehind, if_neg hsome]
    rcases hexponent.next hrest with ⟨hnil, rfl⟩ | ⟨c, more, hcons, -, -, hnext⟩
    · rw [hnil]
    · rw [hcons]
      exact hnext

end Number

/-! ## Scalars -/

theorem expectLetters_append (letters rest : Bytes) :
    expectLetters letters (letters ++ rest) = .ok rest := by
  induction letters with
  | nil => rfl
  | cons letter letters ih => rw [List.cons_append, expectLetters, if_pos rfl, ih]

theorem skipScalar_word {word : Bytes} (h : word ∈ words) (rest : Bytes) :
    skipScalar (word ++ rest) = .ok rest := by
  simp only [words, List.mem_cons, List.not_mem_nil, or_false] at h
  rcases h with rfl | rfl | rfl <;> exact expectLetters_append _ rest

theorem skipScalar_number {bytes rest : Bytes} (h : IsNumber bytes) (hrest : Delimited rest) :
    skipScalar (bytes ++ rest) = .ok rest := by
  obtain ⟨sign, whole, fraction, exponent, hsign, hwhole, hfraction, hexponent, rfl⟩ := h
  have hskip := skipNumber_whole hwhole hfraction hexponent hrest
  simp only [List.append_assoc]
  simp only [List.mem_cons, List.not_mem_nil, or_false] at hsign
  rcases hsign with rfl | rfl
  · obtain ⟨b, tail, rfl, hb⟩ := hwhole.begins
    rw [List.nil_append, List.cons_append, skipScalar, if_neg (ne_of_isDigit hb rfl),
      if_neg (ne_of_isDigit hb rfl), if_neg (ne_of_isDigit hb rfl),
      if_neg (ne_of_isDigit hb rfl), if_pos hb]
    exact hskip
  · exact hskip

theorem readHex4_digits {digits : Bytes} (hlength : digits.length = 4)
    (hdigits : ∀ d ∈ digits, (hexValue? d).isSome = true) (rest : Bytes) :
    ∃ n, readHex4 (digits ++ rest) = .ok (n, rest) := by
  obtain ⟨a, b, c, d, rfl⟩ : ∃ a b c d, digits = [a, b, c, d] := by
    match digits, hlength with
    | [a, b, c, d], _ => exact ⟨a, b, c, d, rfl⟩
  simp only [List.mem_cons, List.not_mem_nil, or_false, forall_eq_or_imp, forall_eq,
    Option.isSome_iff_exists] at hdigits
  obtain ⟨⟨x, hx⟩, ⟨y, hy⟩, ⟨z, hz⟩, ⟨w, hw⟩⟩ := hdigits
  exact ⟨((x * 16 + y) * 16 + z) * 16 + w, by simp [readHex4, hx, hy, hz, hw]⟩

/-- A text is passed over from behind its opening quote, whatever its escapes name. -/
theorem skipText_body {body : Bytes} (h : IsTextBody body) {fuel : Nat}
    (hfuel : body.length < fuel) (rest : Bytes) :
    skipText fuel (body ++ 0x22 :: rest) = .ok rest := by
  induction h generalizing fuel with
  | nil =>
    obtain ⟨fuel, rfl⟩ := Nat.exists_eq_add_one.2 hfuel
    rfl
  | plain hquote hslash hcontrol _ ih =>
    obtain ⟨fuel, rfl⟩ := Nat.exists_eq_add_one.2 (Nat.zero_lt_of_lt hfuel)
    rw [List.cons_append, skipText, if_neg hquote, if_neg hslash, if_neg hcontrol]
    exact ih (Nat.lt_of_succ_lt_succ hfuel)
  | @short b body hshort _ ih =>
    obtain ⟨fuel, rfl⟩ := Nat.exists_eq_add_one.2 (Nat.zero_lt_of_lt hfuel)
    have hb : b ≠ 0x75 := by
      rintro rfl
      cases hshort
    have hescape : skipEscape (b :: (body ++ 0x22 :: rest)) = .ok (body ++ 0x22 :: rest) := by
      rw [skipEscape, if_neg hb, if_pos hshort]
    rw [List.cons_append, List.cons_append, skipText, if_neg (by decide), if_pos rfl, hescape]
    simp only [List.length_cons] at hfuel
    exact ih (by omega)
  | @code digits body hlength hdigits _ ih =>
    obtain ⟨fuel, rfl⟩ := Nat.exists_eq_add_one.2 (Nat.zero_lt_of_lt hfuel)
    obtain ⟨n, hhex⟩ := readHex4_digits hlength hdigits (body ++ 0x22 :: rest)
    have hescape : skipEscape (0x75 :: (digits ++ (body ++ 0x22 :: rest))) =
        .ok (body ++ 0x22 :: rest) := by
      rw [skipEscape, if_pos rfl, hhex]
      rfl
    rw [List.cons_append, List.cons_append, List.append_assoc, skipText, if_neg (by decide),
      if_pos rfl, hescape]
    simp only [List.length_cons, List.length_append] at hfuel
    exact ih (by omega)

theorem skipText_text {body : Bytes} (h : IsTextBody body) (rest : Bytes) :
    skipText (body ++ 0x22 :: rest).length (body ++ 0x22 :: rest) = .ok rest := by
  apply skipText_body h
  simp only [List.length_append, List.length_cons]
  omega

theorem skipScalar_text {bytes : Bytes} (h : IsText bytes) (rest : Bytes) :
    skipScalar (bytes ++ rest) = .ok rest := by
  obtain ⟨body, hbody, rfl⟩ := h
  rw [List.cons_append, List.append_assoc, List.singleton_append]
  exact skipText_text hbody rest

theorem skipName_member {m : Member} (h : m.Proper) {blanks : Bytes} (hblanks : Blanks blanks)
    (rest : Bytes) :
    skipName (blanks ++ (m.text ++ rest)) = .ok (m.afterColon ++ (m.value ++ rest)) := by
  obtain ⟨body, hbody, hname⟩ := h.name
  have htext : m.text ++ rest = 0x22 :: (body ++ 0x22 :: (m.beforeColon ++
      0x3A :: (m.afterColon ++ (m.value ++ rest)))) := by
    simp [Member.text, hname]
  have hcolon : skipBlanks (m.beforeColon ++ 0x3A :: (m.afterColon ++ (m.value ++ rest))) =
      0x3A :: (m.afterColon ++ (m.value ++ rest)) := skipBlanks_append_cons h.beforeColon rfl _
  rw [htext, skipName, skipBlanks_append_cons hblanks (by rfl)]
  simp only [if_true, skipText_text hbody, bind, Except.bind, hcolon]
  rfl

/-! ## Lists and objects -/

/-- With two rounds a byte, passing over the value comes to its end. -/
def Passed (value : Bytes) : Prop :=
  ∀ {fuel : Nat} (opens : List Open) {blanks rest : Bytes}, Blanks blanks → Delimited rest →
    2 * value.length ≤ fuel →
      ∃ fuel', fuel ≤ fuel' + 2 * value.length ∧
        skipWithin fuel .value opens (blanks ++ (value ++ rest)) =
          skipWithin fuel' .ended opens rest

theorem Blanks.nil : Blanks [] := fun _ hb => (List.not_mem_nil hb).elim

theorem not_continuesNumber_of_isBlank {b : UInt8} (h : isBlank b = true) :
    continuesNumber b = false := by
  simp only [isBlank, Bool.or_eq_true, decide_eq_true_eq] at h
  rcases h with ((rfl | rfl) | rfl) | rfl <;> rfl

theorem delimited_blanks {blanks : Bytes} (h : Blanks blanks) {b : UInt8}
    (hb : continuesNumber b = false) (rest : Bytes) : Delimited (blanks ++ b :: rest) := by
  cases blanks with
  | nil => exact notAhead_cons hb
  | cons b' blanks => exact notAhead_cons (not_continuesNumber_of_isBlank (h b' (.head _)))

theorem Behind.delimited {closing : UInt8} (hclosing : continuesNumber closing = false)
    {pieces : List Bytes} {bytes : Bytes} (h : Behind closing pieces bytes) (rest : Bytes) :
    Delimited (bytes ++ rest) := by
  cases h with
  | closing hblanks =>
    rw [List.append_assoc]
    exact delimited_blanks hblanks hclosing rest
  | comma hblanks =>
    rw [List.append_assoc]
    exact delimited_blanks hblanks rfl _

theorem passed_of_scalar {value : Bytes} {b : UInt8} {tail : Bytes} (hvalue : value = b :: tail)
    (hb : isBlank b = false ∧ b ≠ 0x5B ∧ b ≠ 0x7B)
    (hskip : ∀ rest, Delimited rest → skipScalar (value ++ rest) = .ok rest) : Passed value := by
  subst hvalue
  intro fuel opens blanks rest hblanks hrest hfuel
  rw [List.length_cons] at hfuel ⊢
  obtain ⟨fuel, rfl⟩ : ∃ n, fuel = n + 1 := ⟨fuel - 1, by omega⟩
  refine ⟨fuel, by omega, ?_⟩
  have hscalar := hskip rest hrest
  rw [List.cons_append] at hscalar ⊢
  rw [skipWithin, skipBlanks_append_cons hblanks hb.1]
  simp only [if_neg hb.2.1, if_neg hb.2.2, hscalar]
  rfl

def opening : Open → UInt8
  | .list => 0x5B
  | .object => 0x7B

def closing : Open → UInt8
  | .list => 0x5D
  | .object => 0x7D

/-- What is passed over before a value of the list or object. -/
def enter : Open → Bytes → Except Fault Bytes
  | .list, input => .ok input
  | .object, input => skipName input

section Rounds

variable {fuel : Nat} {opens : List Open} {blanks : Bytes}

theorem skipWithin_opening (o : Open) (hblanks : Blanks blanks) (rest : Bytes) :
    skipWithin (fuel + 1) .value opens (blanks ++ opening o :: rest) =
      skipWithin fuel .opened (o :: opens) rest := by
  cases o <;> rw [skipWithin, skipBlanks_append_cons hblanks (by rfl)] <;> rfl

theorem skipWithin_opened_closing (o : Open) (hblanks : Blanks blanks) (rest : Bytes) :
    skipWithin (fuel + 1) .opened (o :: opens) (blanks ++ closing o :: rest) =
      skipWithin fuel .ended opens rest := by
  cases o <;> rw [skipWithin, skipBlanks_append_cons hblanks (by rfl)] <;> rfl

theorem skipWithin_opened_enter (o : Open) (hblanks : Blanks blanks) {b : UInt8}
    (hb : isBlank b = false) (hclosing : b ≠ closing o) (rest : Bytes) :
    skipWithin (fuel + 1) .opened (o :: opens) (blanks ++ b :: rest) =
      (enter o (b :: rest)).bind (skipWithin fuel .value (o :: opens)) := by
  cases o <;> rw [skipWithin, skipBlanks_append_cons hblanks hb] <;> exact if_neg hclosing

theorem skipWithin_ended_closing (o : Open) (hblanks : Blanks blanks) (rest : Bytes) :
    skipWithin (fuel + 1) .ended (o :: opens) (blanks ++ closing o :: rest) =
      skipWithin fuel .ended opens rest := by
  cases o <;> rw [skipWithin, skipBlanks_append_cons hblanks (by rfl)] <;> rfl

theorem skipWithin_ended_comma (o : Open) (hblanks : Blanks blanks) (rest : Bytes) :
    skipWithin (fuel + 1) .ended (o :: opens) (blanks ++ comma :: rest) =
      (enter o rest).bind (skipWithin fuel .value (o :: opens)) := by
  cases o <;> rw [skipWithin, skipBlanks_append_cons hblanks (by rfl)] <;> rfl

end Rounds

/-- The piece of a list or object comes down to a value that is passed over. -/
structure Passable (o : Open) (piece : Bytes) : Prop where
  begins : ∃ b tail, piece = b :: tail ∧ isBlank b = false ∧ b ≠ closing o
  enters : ∃ value, Passed value ∧ value.length ≤ piece.length ∧
    ∀ {blanks : Bytes}, Blanks blanks → ∀ rest, ∃ blanks', Blanks blanks' ∧
      enter o (blanks ++ (piece ++ rest)) = .ok (blanks' ++ (value ++ rest))

theorem Passable.passes {o : Open} {piece : Bytes} (h : Passable o piece) {fuel : Nat}
    (opens : List Open) {blanks rest : Bytes} (hblanks : Blanks blanks) (hrest : Delimited rest)
    (hfuel : 2 * piece.length ≤ fuel) :
    ∃ fuel', fuel ≤ fuel' + 2 * piece.length ∧
      (enter o (blanks ++ (piece ++ rest))).bind (skipWithin fuel .value (o :: opens)) =
        skipWithin fuel' .ended (o :: opens) rest := by
  obtain ⟨value, hvalue, hlength, henter⟩ := h.enters
  obtain ⟨blanks', hblanks', henter⟩ := henter hblanks rest
  obtain ⟨fuel', hfuel', hskip⟩ :=
    hvalue (o :: opens) hblanks' hrest (Nat.le_trans (Nat.mul_le_mul_left 2 hlength) hfuel)
  exact ⟨fuel', by omega, by rw [henter]; exact hskip⟩

/-- The pieces behind the first one are passed over one after the other, and then the closing
byte. -/
theorem skipWithin_behind {o : Open} {pieces : List Bytes} {bytes : Bytes}
    (h : Behind (closing o) pieces bytes) (hpieces : ∀ piece ∈ pieces, Passable o piece)
    {fuel : Nat} (opens : List Open) (rest : Bytes) (hfuel : 2 * bytes.length ≤ fuel) :
    ∃ fuel', fuel ≤ fuel' + 2 * bytes.length ∧
      skipWithin fuel .ended (o :: opens) (bytes ++ rest) = skipWithin fuel' .ended opens rest := by
  induction h generalizing fuel with
  | @closing blanks hblanks =>
    simp only [List.length_append, List.length_singleton] at hfuel ⊢
    obtain ⟨fuel, rfl⟩ : ∃ n, fuel = n + 1 := ⟨fuel - 1, by omega⟩
    refine ⟨fuel, by omega, ?_⟩
    rw [List.append_assoc, List.singleton_append, skipWithin_ended_closing o hblanks]
  | @comma blanks blanks' piece bytes pieces hblanks hblanks' hbehind ih =>
    obtain ⟨hpiece, hpieces⟩ := List.forall_mem_cons.1 hpieces
    simp only [List.length_append, List.length_cons] at hfuel ⊢
    obtain ⟨fuel, rfl⟩ : ∃ n, fuel = n + 1 := ⟨fuel - 1, by omega⟩
    have hdelimited : Delimited (bytes ++ rest) := hbehind.delimited (by cases o <;> rfl) rest
    have henough : 2 * piece.length ≤ fuel := by omega
    obtain ⟨fuel', hfuel', hskip⟩ := hpiece.passes opens hblanks' hdelimited henough
    have henough' : 2 * bytes.length ≤ fuel' := by omega
    obtain ⟨fuel'', hfuel'', hskip'⟩ := ih hpieces henough'
    refine ⟨fuel'', by omega, ?_⟩
    simp only [List.append_assoc, List.cons_append]
    rw [skipWithin_ended_comma o hblanks, hskip, hskip']

theorem passed_of_encloses {o : Open} {pieces : List Bytes} {bytes : Bytes}
    (h : Encloses (opening o) (closing o) pieces bytes)
    (hpieces : ∀ piece ∈ pieces, Passable o piece) : Passed bytes := by
  intro fuel opens blanks rest hblanks hrest hfuel
  cases h with
  | @nothing blanks' hblanks' =>
    simp only [List.length_cons, List.length_append, List.length_nil] at hfuel ⊢
    obtain ⟨fuel, rfl⟩ : ∃ n, fuel = n + 2 := ⟨fuel - 2, by omega⟩
    refine ⟨fuel, by omega, ?_⟩
    simp only [List.cons_append, List.append_assoc, List.nil_append]
    rw [skipWithin_opening o hblanks, skipWithin_opened_closing o hblanks']
  | @pieces blanks' piece bytes pieces hblanks' hbehind =>
    obtain ⟨hpiece, hpieces⟩ := List.forall_mem_cons.1 hpieces
    simp only [List.length_cons, List.length_append] at hfuel ⊢
    obtain ⟨fuel, rfl⟩ : ∃ n, fuel = n + 2 := ⟨fuel - 2, by omega⟩
    have hdelimited : Delimited (bytes ++ rest) := hbehind.delimited (by cases o <;> rfl) rest
    have henough : 2 * piece.length ≤ fuel := by omega
    obtain ⟨fuel', hfuel', hskip⟩ := hpiece.passes opens Blanks.nil hdelimited henough
    have henough' : 2 * bytes.length ≤ fuel' := by omega
    obtain ⟨fuel'', hfuel'', hskip'⟩ := skipWithin_behind hbehind hpieces opens rest henough'
    refine ⟨fuel'', by omega, ?_⟩
    obtain ⟨b, tail, rfl, hb, hclosing⟩ := hpiece.begins
    simp only [List.nil_append, List.cons_append, List.append_assoc] at hskip ⊢
    rw [skipWithin_opening o hblanks, skipWithin_opened_enter o hblanks' hb hclosing, hskip,
      hskip']

theorem passable_item {item : Bytes} (hvalue : IsValue item) (h : Passed item) :
    Passable .list item where
  begins := by
    obtain ⟨b, tail, hitem, hb, hclosing, -⟩ := hvalue.begins
    exact ⟨b, tail, hitem, hb, hclosing⟩
  enters := ⟨item, h, Nat.le_refl _, fun hblanks _ => ⟨_, hblanks, rfl⟩⟩

theorem Member.Proper.begins {m : Member} (h : m.Proper) : ∃ tail, m.text = 0x22 :: tail := by
  obtain ⟨body, -, hname⟩ := h.name
  exact ⟨body ++ [0x22] ++ (m.beforeColon ++ 0x3A :: (m.afterColon ++ m.value)), by
    rw [text, hname, List.cons_append]⟩

theorem passable_member {m : Member} (hproper : m.Proper) (h : Passed m.value) :
    Passable .object m.text where
  begins := by
    obtain ⟨tail, htext⟩ := hproper.begins
    exact ⟨0x22, tail, htext, by decide⟩
  enters := by
    refine ⟨m.value, h, ?_, fun hblanks rest => ⟨m.afterColon, hproper.afterColon, ?_⟩⟩
    · simp only [Member.text, List.length_append, List.length_cons]
      omega
    · exact skipName_member hproper hblanks rest

theorem IsValue.passed {value : Bytes} (h : IsValue value) : Passed value := by
  induction h with
  | word hword =>
    obtain ⟨b, tail, hvalue, hb⟩ := begins_of_mem_words hword
    exact passed_of_scalar hvalue ⟨hb.1, hb.2.2.1, hb.2.2.2.1⟩ fun rest _ =>
      skipScalar_word hword rest
  | number hnumber =>
    obtain ⟨b, tail, hvalue, hb⟩ := hnumber.begins
    exact passed_of_scalar hvalue ⟨hb.1, hb.2.2.1, hb.2.2.2.1⟩ fun rest hrest =>
      skipScalar_number hnumber hrest
  | text htext =>
    obtain ⟨body, -, hvalue⟩ := id htext
    exact passed_of_scalar hvalue (by decide) fun rest _ => skipScalar_text htext rest
  | list hlist hitems ih =>
    apply passed_of_encloses (o := .list) hlist
    intro item hitem
    exact passable_item (hitems item hitem) (ih item hitem)
  | object hobject hproper hvalues ih =>
    apply passed_of_encloses (o := .object) hobject
    intro piece hpiece
    obtain ⟨m, hm, rfl⟩ := List.mem_map.1 hpiece
    exact passable_member (hproper m hm) (ih m hm)

/-- Passing over a value goes right to what follows it. -/
theorem skipValue_value {value blanks rest : Bytes} (h : IsValue value) (hblanks : Blanks blanks)
    (hrest : Delimited rest) : skipValue (blanks ++ (value ++ rest)) = .ok rest := by
  have hlength : value.length ≤ (blanks ++ (value ++ rest)).length := by
    simp only [List.length_append]
    omega
  have henough : 2 * value.length ≤ 2 * (blanks ++ (value ++ rest)).length + 2 := by omega
  obtain ⟨fuel', hfuel', hskip⟩ := h.passed [] hblanks hrest henough
  obtain ⟨fuel', rfl⟩ : ∃ n, fuel' = n + 1 := ⟨fuel' - 1, by omega⟩
  rw [skipValue, hskip]
  rfl

end HostRegistry.Json
