import HostRegistry.Client
import HostRegistry.Proofs.Bytes
import HostRegistry.Proofs.Percent
import HostRegistry.Proofs.Text

/-!
# What a URL asks for

A URL of an address and a path asks for the path, cut at slashes and backslashes, without its dot
segments and with each of its parts escaped. A query or fragment, tabs and line ends are no part of
the path.
-/

namespace HostRegistry.Client

open Text

/-- The characters of names, numbers and ports. -/
def isHostChar (c : Char) : Bool := c.isAlphanum || c = '.' || c = '-' || c = ':'

/-- The base URL of an interface that is found at the root of a host. -/
def IsAddress (base : String) : Prop :=
  ∃ scheme ∈ ["http://", "https://"], ∃ host : List Char,
    host ≠ [] ∧ (∀ c ∈ host, isHostChar c = true) ∧ trimBase base = scheme ++ String.ofList host

theorem eq_of_mem_schemes {scheme : String} (h : scheme ∈ ["http://", "https://"]) :
    scheme = "http://" ∨ scheme = "https://" := by
  rwa [List.mem_cons, List.mem_singleton] at h

namespace Url

/-- The characters of a host stay in a URL and belong to the host. -/
theorem of_isHostChar {c : Char} (h : isHostChar c = true) :
    isTabOrLineEnd c = false ∧ endsAuthority c = false := by
  have hne {c' : Char} (h' : isHostChar c' = false) : c ≠ c' := by
    rintro rfl
    cases h.symm.trans h'
  have htab : c ≠ '\t' := hne (by decide)
  have hline : c ≠ '\n' := hne (by decide)
  have hreturn : c ≠ '\r' := hne (by decide)
  have hslash : c ≠ '/' := hne (by decide)
  have hback : c ≠ '\\' := hne (by decide)
  have hquery : c ≠ '?' := hne (by decide)
  have hhash : c ≠ '#' := hne (by decide)
  simp [isTabOrLineEnd, endsAuthority, isSlash, *]

theorem dropWhile_of_head? {p : Char → Bool} {cs : List Char} {c : Char} (hhead : cs.head? = some c)
    (hc : p c = false) : cs.dropWhile p = cs := by
  obtain ⟨rest, rfl⟩ := List.head?_eq_some_iff.1 hhead
  rw [List.dropWhile_cons_of_neg (by rw [hc]; exact Bool.false_ne_true)]

/-- A text without white space at its ends only loses tabs and line ends. -/
theorem cleaned_of_ends {text : String} {first last : Char}
    (hhead : text.toList.head? = some first) (hfirst : isControlOrSpace first = false)
    (hend : text.toList.getLast? = some last) (hlast : isControlOrSpace last = false) :
    cleaned text = text.toList.filter (!isTabOrLineEnd ·) := by
  have hreverse : text.toList.reverse.head? = some last := by rw [List.head?_reverse, hend]
  rw [cleaned, dropWhile_of_head? hhead hfirst]
  simp only [dropWhile_of_head? hreverse hlast, List.reverse_reverse]

/-- A path loses its tabs and line ends behind a base URL, and else nothing is lost. -/
theorem cleaned_append {scheme : String} (hscheme : scheme ∈ ["http://", "https://"])
    {host : List Char} (hhost : ∀ c ∈ host, isTabOrLineEnd c = false) {path : String} {last : Char}
    (hend : path.toList.getLast? = some last) (hlast : isControlOrSpace last = false) :
    cleaned (scheme ++ String.ofList host ++ path) =
      scheme.toList ++ (host ++ path.toList.filter (!isTabOrLineEnd ·)) := by
  have htext : (scheme ++ String.ofList host ++ path).toList =
      scheme.toList ++ (host ++ path.toList) := by
    rw [String.toList_append, String.toList_append, String.toList_ofList, List.append_assoc]
  have hfirst : (scheme ++ String.ofList host ++ path).toList.head? = some 'h' := by
    rw [htext]
    rcases eq_of_mem_schemes hscheme with rfl | rfl <;> rfl
  have hend' : (scheme ++ String.ofList host ++ path).toList.getLast? = some last := by
    rw [htext, List.getLast?_append, List.getLast?_append, hend]
    rfl
  have hkeep : scheme.toList.filter (!isTabOrLineEnd ·) = scheme.toList := by
    rcases eq_of_mem_schemes hscheme with rfl | rfl <;> rfl
  have hkeep' : host.filter (!isTabOrLineEnd ·) = host :=
    List.filter_eq_self.2 fun c hc => by rw [hhost c hc]; rfl
  rw [cleaned_of_ends hfirst rfl hend' hlast, htext, List.filter_append, List.filter_append,
    hkeep, hkeep']

theorem behindAuthority?_append {scheme : String} (hscheme : scheme ∈ ["http://", "https://"])
    {host path : List Char} (hnonempty : host ≠ []) (hhost : ∀ c ∈ host, endsAuthority c = false)
    (hpath : path.head? = some '/') :
    behindAuthority? (scheme.toList ++ (host ++ path)) = some path := by
  obtain ⟨rest, rfl⟩ := List.head?_eq_some_iff.1 hpath
  obtain ⟨c, host, rfl⟩ := List.exists_cons_of_ne_nil hnonempty
  have hc : isSlash c = false := by
    have := hhost c (.head _)
    rw [endsAuthority, Bool.or_eq_false_iff, Bool.or_eq_false_iff] at this
    exact this.1.1
  have hbehind : ('/' :: '/' :: (c :: host ++ '/' :: rest)).dropWhile isSlash =
      c :: host ++ '/' :: rest := by
    rw [List.dropWhile_cons_of_pos rfl, List.dropWhile_cons_of_pos rfl]
    exact dropWhile_of_head? rfl hc
  have htake : (c :: host ++ '/' :: rest).takeWhile (!endsAuthority ·) = c :: host := by
    rw [List.takeWhile_append_of_pos fun c hc => by rw [hhost c hc]; rfl]
    rw [List.takeWhile_cons_of_neg (by decide), List.append_nil]
  have hdrop : (c :: host ++ '/' :: rest).dropWhile (!endsAuthority ·) = '/' :: rest := by
    rw [List.dropWhile_append_of_pos fun c hc => by rw [hhost c hc]; rfl]
    rw [List.dropWhile_cons_of_neg (by decide)]
  have hauthority : ((scheme.toList ++ (c :: host ++ '/' :: rest)).takeWhile (· ≠ ':')).map
      Char.toLower = "http".toList ∨
      ((scheme.toList ++ (c :: host ++ '/' :: rest)).takeWhile (· ≠ ':')).map Char.toLower =
        "https".toList := by
    exact (eq_of_mem_schemes hscheme).imp (by rintro rfl; rfl) (by rintro rfl; rfl)
  have hrest : ((scheme.toList ++ (c :: host ++ '/' :: rest)).dropWhile (· ≠ ':')).drop 1 =
      '/' :: '/' :: (c :: host ++ '/' :: rest) := by
    rcases eq_of_mem_schemes hscheme with rfl | rfl <;> rfl
  rw [behindAuthority?]
  simp only [hrest, hbehind, htake, hdrop]
  rw [if_pos (by simpa using hauthority)]
  rfl

/-! ## What counts in a path -/

/-- The text of a path up to its query or fragment. -/
def visible (path : List Char) : List Char :=
  (path.filter (!isTabOrLineEnd ·)).takeWhile fun c => c ≠ '?' && c ≠ '#'

/-- Whether a character of a path is asked for. -/
def standsInPath (c : Char) : Bool := !isTabOrLineEnd c && (c ≠ '?' && c ≠ '#')

def toSlash (c : Char) : Char := if isSlash c then '/' else c

theorem map_toSlash {cs : List Char} (h : ∀ c ∈ cs, isSlash c = false) : cs.map toSlash = cs := by
  have hsame : ∀ c ∈ cs, toSlash c = id c := fun c hc => if_neg (ne_true_of_eq_false (h c hc))
  rw [List.map_congr_left hsame, List.map_id]

theorem visible_append_of_stands {cs : List Char} (h : ∀ c ∈ cs, standsInPath c = true)
    (more : List Char) : visible (cs ++ more) = cs ++ visible more := by
  have hfilter : cs.filter (!isTabOrLineEnd ·) = cs :=
    List.filter_eq_self.2 fun c hc => (Bool.and_eq_true_iff.1 (h c hc)).1
  rw [visible, List.filter_append, hfilter,
    List.takeWhile_append_of_pos fun c hc => (Bool.and_eq_true_iff.1 (h c hc)).2]
  rfl

/-- Behind a text that ends a path nothing is asked for. -/
theorem visible_append_or (cs more : List Char) :
    visible (cs ++ more) = visible cs ++ visible more ∨ visible (cs ++ more) = visible cs := by
  rw [visible, List.filter_append, List.takeWhile_append]
  split
  next hall =>
    left
    rw [visible, visible, ((List.takeWhile_prefix _).eq_of_length hall)]
  next => exact .inr rfl

theorem visible_sublist (cs : List Char) : (visible cs).Sublist cs :=
  (List.takeWhile_sublist _).trans List.filter_sublist

theorem stands_of_mem_visible {cs : List Char} {c : Char} (h : c ∈ visible cs) :
    standsInPath c = true := by
  have hkept := (List.mem_filter.1 ((List.takeWhile_sublist _).subset h)).2
  have hbefore := List.all_eq_true.1 List.all_takeWhile c h
  exact Bool.and_eq_true_iff.2 ⟨hkept, hbefore⟩

/-- A piece between slashes and backslashes is part of the text as it was. -/
theorem of_mem_cutList_map {cs piece : List Char} (h : piece ∈ cutList '/' (cs.map toSlash)) :
    piece.Sublist cs ∧ ∀ c ∈ piece, isSlash c = false := by
  obtain ⟨before, hbefore, rfl⟩ := List.sublist_map_iff.1 (sublist_of_mem_cutList h)
  have hslash : ∀ c ∈ before, isSlash c = false := by
    intro c hc
    by_contra hslash
    have hmapped : toSlash c = '/' := if_pos (eq_true_of_ne_false hslash)
    exact not_mem_of_mem_cutList h (List.mem_map.2 ⟨c, hc, hmapped⟩)
  rw [map_toSlash hslash]
  exact ⟨hbefore, hslash⟩

/-! ## The parts of a path -/

/-- The parts of a path that are asked for. -/
def partsOf (path : List Char) : List (List Char) :=
  cleanParts [] (cutList '/' (((visible path).drop 1).map toSlash))

/-- A part as it is written in a target. -/
def partText (part : List Char) : String := Bytes.asciiText (encodeText escapedInPath part)

/-- A part that is asked for is no dot segment; the last one may be left empty. -/
theorem mem_of_mem_cleanParts {kept parts : List (List Char)} {part : List Char}
    (h : part ∈ cleanParts kept parts) :
    part ∈ kept ∨ part = [] ∨
      part ∈ parts ∧ isSingleDot part = false ∧ isDoubleDot part = false := by
  have hempty {above : List (List Char)} (habove : part ∈ ([] :: above).reverse) :
      part = [] ∨ part ∈ above := List.mem_cons.1 (List.mem_reverse.1 habove)
  fun_induction cleanParts kept parts with
  | case1 kept => exact .inl (List.mem_reverse.1 h)
  | case2 kept last _ =>
    rcases hempty h with hpart | hpart
    · exact .inr (.inl hpart)
    · exact .inl (List.mem_of_mem_drop hpart)
  | case3 kept last _ _ => exact (hempty h).elim (fun hpart => .inr (.inl hpart)) .inl
  | case4 kept last hdouble hsingle =>
    rcases List.mem_cons.1 (List.mem_reverse.1 h) with rfl | hpart
    · exact .inr (.inr ⟨.head _, eq_false_of_ne_true hsingle, eq_false_of_ne_true hdouble⟩)
    · exact .inl hpart
  | case5 kept first rest _ _ ih =>
    rcases ih h with hpart | hpart | ⟨hpart, hdots⟩
    · exact .inl (List.mem_of_mem_drop hpart)
    · exact .inr (.inl hpart)
    · exact .inr (.inr ⟨.tail _ hpart, hdots⟩)
  | case6 kept first rest _ _ _ ih =>
    exact (ih h).imp_right (.imp_right fun ⟨hpart, hdots⟩ => ⟨.tail _ hpart, hdots⟩)
  | case7 kept first rest _ hdouble hsingle ih =>
    rcases ih h with hpart | hpart | ⟨hpart, hdots⟩
    · rcases List.mem_cons.1 hpart with rfl | hpart
      · exact .inr (.inr ⟨.head _, eq_false_of_ne_true hsingle, eq_false_of_ne_true hdouble⟩)
      · exact .inl hpart
    · exact .inr (.inl hpart)
    · exact .inr (.inr ⟨.tail _ hpart, hdots⟩)

theorem cleanParts_of_plain {parts : List (List Char)}
    (h : ∀ part ∈ parts, isSingleDot part = false ∧ isDoubleDot part = false)
    (kept : List (List Char)) : cleanParts kept parts = kept.reverse ++ parts := by
  fun_induction cleanParts kept parts with
  | case1 kept => rw [List.append_nil]
  | case2 kept last hdouble => cases (h last (.head _)).2.symm.trans hdouble
  | case3 kept last _ hsingle => cases (h last (.head _)).1.symm.trans hsingle
  | case4 kept last _ _ => rw [List.reverse_cons]
  | case5 kept first rest _ hdouble _ => cases (h first (.head _)).2.symm.trans hdouble
  | case6 kept first rest _ _ hsingle _ => cases (h first (.head _)).1.symm.trans hsingle
  | case7 kept first rest _ _ _ ih =>
    rw [ih fun part hpart => h part (.tail _ hpart), List.reverse_cons, List.append_assoc]
    rfl

/-! ## Dot segments -/

/-- A letter and its capital; only one letter stands in a dot segment. -/
def casings (c : Char) : List Char := if c = 'e' then ['e', 'E'] else [c]

/-- All texts that are the given one in lower case. -/
def variants : List Char → List (List Char)
  | [] => [[]]
  | c :: rest => (casings c).flatMap fun c => (variants rest).map (c :: ·)

theorem mem_casings {c lower : Char} (hlower : lower = 'e' ∨ lower.toNat < 97)
    (h : c.toLower = lower) : c ∈ casings lower := by
  rcases toLower_cases c with hsame | ⟨hfirst, -, hshift⟩
  · rw [casings, ← h, hsame]
    split
    next hc => rw [hc]; exact .head _
    next => exact .head _
  · rw [h] at hshift
    rcases hlower with rfl | hsmall
    · have hc : c = 'E' := Char.toNat_inj.1 (by rw [← Nat.add_right_cancel_iff, ← hshift]; rfl)
      rw [hc]
      exact .tail _ (.head _)
    · omega

theorem mem_variants {lower cs : List Char} (hlower : ∀ c ∈ lower, c = 'e' ∨ c.toNat < 97)
    (h : cs.map Char.toLower = lower) : cs ∈ variants lower := by
  induction cs generalizing lower with
  | nil =>
    cases h
    exact .head _
  | cons c rest ih =>
    cases h
    obtain ⟨hc, hrest⟩ := List.forall_mem_cons.1 hlower
    rw [List.map_cons, variants, List.mem_flatMap]
    exact ⟨c, mem_casings hc rfl, List.mem_map.2 ⟨rest, ih hrest rfl, rfl⟩⟩

def dotSegments : List (List Char) :=
  [".".toList, "%2e".toList, "..".toList, ".%2e".toList, "%2e.".toList, "%2e%2e".toList]

/-- A dot segment that is written with escapes does not come back from decoding. -/
theorem eq_of_isDot {part : List Char} (h : (isSingleDot part || isDoubleDot part) = true)
    (hdecode : Percent.decode (Bytes.ofText (String.ofList part)) =
      Bytes.ofText (String.ofList part)) : part = ['.'] ∨ part = ['.', '.'] := by
  have hsegment : part.map Char.toLower ∈ dotSegments := by
    simp only [isSingleDot, isDoubleDot, Bool.or_eq_true, decide_eq_true_iff] at h
    rcases h with (h | h) | ((h | h) | h) | h <;> rw [h] <;> decide
  have hlower : ∀ segment ∈ dotSegments,
      (segment.all fun c => c = 'e' || c.toNat < 97) = true := by decide
  have hlower' : ∀ c ∈ part.map Char.toLower, c = 'e' ∨ c.toNat < 97 := by
    simpa using List.all_eq_true.1 (hlower _ hsegment)
  have hvariant : part ∈ dotSegments.flatMap variants :=
    List.mem_flatMap.2 ⟨_, hsegment, mem_variants hlower' rfl⟩
  have hall : ∀ part ∈ dotSegments.flatMap variants,
      Percent.decode (Bytes.ofText (String.ofList part)) = Bytes.ofText (String.ofList part) →
        part = ['.'] ∨ part = ['.', '.'] := by
    decide +kernel
  exact hall part hvariant hdecode

/-! ## Escaped parts -/

theorem escapedInPath_of_digit {b : UInt8} (h : (Json.hexValue? b).isSome) :
    escapedInPath b = false ∧ b ≠ 0x2F := by
  have hall : ∀ b, (Json.hexValue? b).isSome → escapedInPath b = false ∧ b ≠ 0x2F :=
    Bytes.forall_byte (by decide +kernel)
  exact hall b h

theorem of_not_escapedInPath {b : UInt8} (h : escapedInPath b = false) :
    b.toNat < 128 ∧ b.toNat ≠ 63 ∧ b.toNat ≠ 35 := by
  have hall : ∀ b, escapedInPath b = false → b.toNat < 128 ∧ b.toNat ≠ 63 ∧ b.toNat ≠ 35 :=
    Bytes.forall_byte (by decide +kernel)
  exact hall b h

theorem of_not_escapedInQuery {b : UInt8} (h : escapedInQuery b = false) : b.toNat < 128 := by
  have hall : ∀ b, escapedInQuery b = false → b.toNat < 128 :=
    Bytes.forall_byte (by decide +kernel)
  exact hall b h

theorem decode_encodeText (cs : List Char) :
    Percent.decode (encodeText escapedInPath cs) =
      Percent.decode (Bytes.ofText (String.ofList cs)) :=
  Percent.decode_encode rfl (fun _ hb => (escapedInPath_of_digit hb).1) _

/-- Escaped parts are made of characters, none of which ends a path. -/
theorem of_mem_encodeText {cs : List Char} {b : UInt8} (h : b ∈ encodeText escapedInPath cs) :
    b.toNat < 128 ∧ b.toNat ≠ 63 ∧ b.toNat ≠ 35 := by
  rcases Percent.mem_encode h with ⟨-, hplain⟩ | rfl | hdigit
  · exact of_not_escapedInPath hplain
  · decide
  · exact of_not_escapedInPath (escapedInPath_of_digit hdigit).1

theorem slash_not_mem_encodeText {cs : List Char} (h : '/' ∉ cs) :
    0x2F ∉ encodeText escapedInPath cs := by
  intro hslash
  rcases Percent.mem_encode hslash with ⟨hmem, -⟩ | hpercent | hdigit
  · exact h (Bytes.mem_of_mem_ofText (c := '/') (by decide) hmem)
  · cases hpercent
  · exact (escapedInPath_of_digit hdigit).2 rfl

/-! ## The target -/

theorem of_mem_pathBytes {parts : List (List Char)} {b : UInt8}
    (h : b ∈ parts.flatMap (0x2F :: encodeText escapedInPath ·)) :
    b.toNat < 128 ∧ b.toNat ≠ 63 ∧ b.toNat ≠ 35 := by
  obtain ⟨part, -, hb⟩ := List.mem_flatMap.1 h
  rcases List.mem_cons.1 hb with rfl | hb
  · decide
  · exact of_mem_encodeText hb

/-- A query is empty or begins with its question mark. -/
theorem query_cases (rest : List Char) (query : Bytes)
    (h : query = match rest with
      | '?' :: rest => 0x3F :: encodeText escapedInQuery (rest.takeWhile (· ≠ '#'))
      | _ => []) :
    (∀ b ∈ query, b.toNat < 128) ∧ (query = [] ∨ ∃ more, query = 0x3F :: more) := by
  subst h
  split
  · refine ⟨List.forall_mem_cons.2 ⟨by decide, fun b hb => ?_⟩, .inr ⟨_, rfl⟩⟩
    rcases Percent.mem_encode hb with ⟨-, hplain⟩ | rfl | hdigit
    · exact of_not_escapedInQuery hplain
    · decide
    · exact (of_not_escapedInPath (escapedInPath_of_digit hdigit).1).1
  · exact ⟨fun b hb => (List.not_mem_nil hb).elim, .inl rfl⟩

/-- The URL of an address and a path asks for the path's parts, and then for a query. -/
theorem target?_of_isAddress {base : String} (hbase : IsAddress base) {path : String} {last : Char}
    (hslash : path.toList.head? = some '/') (hend : path.toList.getLast? = some last)
    (hlast : isControlOrSpace last = false) :
    ∃ query : Bytes, (query = [] ∨ ∃ more, query = 0x3F :: more) ∧
      target? (trimBase base ++ path) = some (Bytes.asciiText
        ((partsOf path.toList).flatMap (0x2F :: encodeText escapedInPath ·) ++ query)) := by
  obtain ⟨scheme, hscheme, host, hnonempty, hplain, htrim⟩ := hbase
  have hhost : ∀ c ∈ host, isTabOrLineEnd c = false ∧ endsAuthority c = false :=
    fun c hc => of_isHostChar (hplain c hc)
  have hcleaned := cleaned_append hscheme (fun c hc => (hhost c hc).1) hend hlast
  have hslash' : (path.toList.filter (!isTabOrLineEnd ·)).head? = some '/' := by
    obtain ⟨rest, hrest⟩ := List.head?_eq_some_iff.1 hslash
    rw [hrest]
    rfl
  have hbehind := behindAuthority?_append hscheme hnonempty (fun c hc => (hhost c hc).2) hslash'
  rw [htrim, target?, hcleaned, hbehind]
  simp only [Option.bind_eq_bind, Option.bind_some]
  obtain ⟨hascii, hform⟩ := query_cases
    ((path.toList.filter (!isTabOrLineEnd ·)).dropWhile fun c => c ≠ '?' && c ≠ '#') _ rfl
  refine ⟨_, hform, Bytes.toText?_ascii fun b hb => ?_⟩
  rcases List.mem_append.1 hb with hb | hb
  · exact (of_mem_pathBytes hb).1
  · exact hascii b hb

theorem pathOf_asciiText {bs query : Bytes}
    (h : ∀ b ∈ bs, b.toNat < 128 ∧ b.toNat ≠ 63 ∧ b.toNat ≠ 35)
    (hquery : query = [] ∨ ∃ more, query = 0x3F :: more) :
    Management.pathOf (Bytes.asciiText (bs ++ query)) = Bytes.asciiText bs := by
  rw [Management.pathOf, Bytes.asciiText, String.toList_ofList, List.map_append,
    List.takeWhile_append_of_pos]
  · rcases hquery with rfl | ⟨more, rfl⟩
    · rw [List.map_nil, List.takeWhile_nil, List.append_nil]
      rfl
    · rw [List.map_cons, List.takeWhile_cons_of_neg (by decide), List.append_nil]
      rfl
  · intro c hc
    obtain ⟨b, hb, rfl⟩ := List.mem_map.1 hc
    obtain ⟨hascii, hquestion, hhash⟩ := h b hb
    have hquestion' : Char.ofNat b.toNat ≠ '?' := Bytes.ofNat_ne hascii hquestion
    have hhash' : Char.ofNat b.toNat ≠ '#' := Bytes.ofNat_ne hascii hhash
    simp [hquestion', hhash']

theorem slash_not_mem_of_mem_partsOf {path part : List Char} (h : part ∈ partsOf path) :
    '/' ∉ part := by
  rcases mem_of_mem_cleanParts h with hpart | rfl | ⟨hpart, -⟩
  · exact (List.not_mem_nil hpart).elim
  · exact List.not_mem_nil
  · exact not_mem_of_mem_cutList hpart

theorem cut_asciiText {parts : List (List Char)} (h : ∀ part ∈ parts, '/' ∉ part) :
    Text.cut '/' (Bytes.asciiText (parts.flatMap (0x2F :: encodeText escapedInPath ·))) =
      "" :: parts.map partText := by
  let written (part : List Char) : List Char :=
    (encodeText escapedInPath part).map fun b => Char.ofNat b.toNat
  have htext : (parts.flatMap (0x2F :: encodeText escapedInPath ·)).map
      (fun b : UInt8 => Char.ofNat b.toNat) = (parts.map written).flatMap ('/' :: ·) := by
    rw [List.map_flatMap, List.flatMap_map]
    rfl
  have hwritten : ∀ piece ∈ parts.map written, '/' ∉ piece := by
    intro piece hpiece hslash
    obtain ⟨part, hpart, rfl⟩ := List.mem_map.1 hpiece
    obtain ⟨b, hb, hchar⟩ := List.mem_map.1 hslash
    by_cases hb' : b.toNat = 47
    · have : b = 0x2F := UInt8.toNat_inj.1 hb'
      exact slash_not_mem_encodeText (h part hpart) (this ▸ hb)
    · have hne : Char.ofNat b.toNat ≠ '/' := Bytes.ofNat_ne (of_mem_encodeText hb).1 hb'
      exact hne hchar
  rw [Text.cut, Bytes.asciiText, String.toList_ofList, htext, cutList_flatMap hwritten,
    List.map_cons, List.map_map]
  rfl

/-- What a base URL and a path ask for is the path's parts, each behind a slash. -/
theorem cut_pathOf_target {base : String} (hbase : IsAddress base) {path : String} {last : Char}
    (hslash : path.toList.head? = some '/') (hend : path.toList.getLast? = some last)
    (hlast : isControlOrSpace last = false) :
    ∃ target, target? (trimBase base ++ path) = some target ∧
      Text.cut '/' (Management.pathOf target) = "" :: (partsOf path.toList).map partText := by
  obtain ⟨query, hquery, htarget⟩ := target?_of_isAddress hbase hslash hend hlast
  refine ⟨_, htarget, ?_⟩
  rw [pathOf_asciiText (fun b hb => of_mem_pathBytes hb) hquery,
    cut_asciiText fun part => slash_not_mem_of_mem_partsOf]

end Url

end HostRegistry.Client
