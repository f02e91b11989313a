import HostRegistry.Proofs.Json.Members

/-!
# What is refused

A reader that succeeds on a value has read just this value. So a list is refused when one of its
items is, and a structure when it gives a field twice or gives it a value that is refused, wherever
in the list or object that is and whatever stands around it.
-/

namespace HostRegistry.Json

/-- If it succeeds on a value, the reader goes on right behind it. -/
structure Stays {α : Type} (reader : Reader α) : Prop where
  rest_eq : ∀ {bytes blanks rest rest' : Bytes} {a : α}, IsValue bytes → Blanks blanks →
    reader (blanks ++ (bytes ++ rest)) = .ok (a, rest') → rest' = rest

/-- The reader fails on these bytes, whatever follows them. -/
def Refuses {α : Type} (reader : Reader α) (bytes : Bytes) : Prop :=
  ∀ blanks rest : Bytes, Blanks blanks → ∀ success, reader (blanks ++ (bytes ++ rest)) ≠ .ok success

theorem not_refuses_of_read {α : Type} {reader : Reader α} {bytes rest : Bytes}
    {success : α × Bytes} (h : reader (bytes ++ rest) = .ok success) : ¬Refuses reader bytes :=
  fun hrefuses => hrefuses [] rest Blanks.nil success h

/-! ## Texts -/

section Texts

variable {body rest rest' : Bytes}

/-- The second half of a pair is an escape of its own. -/
theorem readTrailingSurrogate_stays {leading : Nat} {bytes : Bytes} (hbody : IsTextBody body)
    (h : readTrailingSurrogate leading (body ++ 0x22 :: rest) = .ok (bytes, rest')) :
    ∃ more, IsTextBody more ∧ rest' = more ++ 0x22 :: rest := by
  cases hbody with
  | nil => cases h
  | plain _ hslash =>
    rw [List.cons_append, readTrailingSurrogate.eq_def] at h
    simp only [ne_eq, hslash, not_false_eq_true, if_true] at h
    cases h
  | @short b _ hshort =>
    have hb : b ≠ 0x75 := by
      rintro rfl
      cases hshort
    rw [List.cons_append, List.cons_append, readTrailingSurrogate, if_neg (by decide)] at h
    simp only [if_pos hb] at h
    cases h
  | @code digits more hlength hdigits hmore =>
    obtain ⟨n, hhex⟩ := readHex4_digits hlength hdigits (more ++ 0x22 :: rest)
    rw [List.cons_append, List.cons_append, List.append_assoc, readTrailingSurrogate,
      if_neg (by decide)] at h
    simp only [ne_eq, not_true_eq_false, if_false, hhex, bind, Except.bind, pure, Except.pure] at h
    split at h
    · obtain ⟨-, hrest⟩ := Prod.mk.inj (Except.ok.inj h)
      exact ⟨more, hmore, hrest.symm⟩
    · cases h

theorem readEscape_stays {escape bytes : Bytes} (hbody : IsTextBody (0x5C :: escape))
    (h : readEscape (escape ++ 0x22 :: rest) = .ok (bytes, rest')) :
    ∃ more, IsTextBody more ∧ rest' = more ++ 0x22 :: rest := by
  cases hbody with
  | plain _ hslash => exact absurd rfl hslash
  | @short b more hshort hmore =>
    have hb : b ≠ 0x75 := by
      rintro rfl
      cases hshort
    obtain ⟨c, hc⟩ := Option.isSome_iff_exists.1 hshort
    rw [List.cons_append, readEscape, if_neg hb, hc] at h
    cases h
    exact ⟨more, hmore, rfl⟩
  | @code digits more hlength hdigits hmore =>
    obtain ⟨n, hhex⟩ := readHex4_digits hlength hdigits (more ++ 0x22 :: rest)
    rw [List.cons_append, List.append_assoc, readEscape, if_pos rfl, hhex] at h
    simp only [bind, Except.bind] at h
    split at h
    · cases h
    · split at h
      · exact readTrailingSurrogate_stays hmore h
      · cases h
        exact ⟨more, hmore, rfl⟩

theorem readTextBytes_stays {fuel : Nat} {bytes : Bytes} (hbody : IsTextBody body)
    (h : readTextBytes fuel (body ++ 0x22 :: rest) = .ok (bytes, rest')) : rest' = rest := by
  induction fuel generalizing body bytes with
  | zero => cases h
  | succ fuel ih =>
    -- An escape may take the next one with it, so the cases follow the reader and not the body.
    have hescape : ∀ escape, body = 0x5C :: escape → rest' = rest := by
      rintro escape rfl
      rw [List.cons_append, readTextBytes, if_neg (by decide), if_pos rfl] at h
      obtain ⟨⟨_, behind⟩, hread, h⟩ := bind_eq_ok h
      obtain ⟨more, hmore, rfl⟩ := readEscape_stays hbody hread
      obtain ⟨⟨_, _⟩, hothers, h⟩ := bind_eq_ok h
      cases h
      exact ih hmore hothers
    cases hbody with
    | nil =>
      cases h
      rfl
    | plain hquote hslash hcontrol hmore =>
      rw [List.cons_append, readTextBytes, if_neg hquote, if_neg hslash, if_neg hcontrol] at h
      obtain ⟨⟨_, _⟩, hothers, h⟩ := bind_eq_ok h
      cases h
      exact ih hmore hothers
    | short => exact hescape _ rfl
    | code => exact hescape _ rfl

theorem readQuoted_stays {tail : Bytes} {s : String} (htext : IsText (0x22 :: tail))
    (h : readQuoted (tail ++ rest) = .ok (s, rest')) : rest' = rest := by
  obtain ⟨body, hbody, hbytes⟩ := htext
  cases hbytes
  rw [List.append_assoc, List.singleton_append] at h
  obtain ⟨⟨_, behind⟩, hread, h⟩ := bind_eq_ok h
  simp only at h
  split at h
  · cases h
    exact readTextBytes_stays hbody hread
  · cases h

end Texts

/-! ## Values of another kind -/

namespace IsValue

variable {bytes tail : Bytes}

theorem isText (h : IsValue (0x22 :: tail)) : IsText (0x22 :: tail) := by
  rcases h.kinds with ⟨b, _, hbytes, hb⟩ | htext | ⟨_, hlist, -⟩ | ⟨_, hobject, -⟩
  · cases hbytes
    exact absurd rfl hb.2.1
  · exact htext
  · obtain ⟨_, hbytes⟩ := hlist.begins
    cases hbytes
  · obtain ⟨_, hbytes⟩ := hobject.begins
    cases hbytes

theorem isList (h : IsValue (0x5B :: tail)) :
    ∃ items, IsList items (0x5B :: tail) ∧ ∀ item ∈ items, IsValue item := by
  rcases h.kinds with ⟨b, _, hbytes, hb⟩ | ⟨_, -, hbytes⟩ | hlist | ⟨_, hobject, -⟩
  · cases hbytes
    exact absurd rfl hb.2.2.1
  · cases hbytes
  · exact hlist
  · obtain ⟨_, hbytes⟩ := hobject.begins
    cases hbytes

theorem hasMembers (h : IsValue (0x7B :: tail)) :
    ∃ members, HasMembers members (0x7B :: tail) ∧ (∀ m ∈ members, m.Proper) ∧
      ∀ m ∈ members, IsValue m.value := by
  rcases h.kinds with ⟨b, _, hbytes, hb⟩ | ⟨_, -, hbytes⟩ | ⟨_, hlist, -⟩ | hobject
  · cases hbytes
    exact absurd rfl hb.2.2.2.1
  · cases hbytes
  · obtain ⟨_, hbytes⟩ := hlist.begins
    cases hbytes
  · exact hobject

end IsValue

theorem IsValue.nextItem_opened {value blanks : Bytes} (h : IsValue value) (hblanks : Blanks blanks)
    (rest : Bytes) : nextItem true (blanks ++ (value ++ rest)) = .ok (some (value ++ rest)) := by
  obtain ⟨b, tail, rfl, hb, hclosing, -⟩ := h.begins
  exact Json.nextItem_opened hblanks hb hclosing _

theorem IsValue.nextItem_behind {value blanks blanks' : Bytes} (h : IsValue value)
    (hblanks : Blanks blanks) (hblanks' : Blanks blanks') (rest : Bytes) :
    nextItem false (blanks ++ comma :: (blanks' ++ (value ++ rest))) =
      .ok (some (value ++ rest)) := by
  obtain ⟨b, tail, rfl, hb, hclosing, -⟩ := h.begins
  exact Json.nextItem_behind hblanks hblanks' hb hclosing _

theorem not_readText {blanks tail : Bytes} {b : UInt8} (hblanks : Blanks blanks)
    (hb : isBlank b = false) (hquote : b ≠ 0x22) (success : String × Bytes) :
    readText (blanks ++ b :: tail) ≠ .ok success := by
  rw [readText, skipBlanks_append_cons hblanks hb]
  simp only [if_neg hquote]
  intro h
  cases h

theorem not_readList {α : Type} {item : Reader α} {blanks tail : Bytes} {b : UInt8}
    (hblanks : Blanks blanks) (hb : isBlank b = false) (hbracket : b ≠ 0x5B)
    (success : List α × Bytes) : readList item (blanks ++ b :: tail) ≠ .ok success := by
  rw [readList, skipBlanks_append_cons hblanks hb]
  simp only [if_neg hbracket]
  intro h
  cases h

theorem readText_refuses_null : Refuses readText null :=
  fun _ _ hblanks success => not_readText hblanks rfl (by decide) success

theorem readList_refuses_null {α : Type} (item : Reader α) : Refuses (readList item) null :=
  fun _ _ hblanks success => not_readList hblanks rfl (by decide) success

theorem readText_stays : Stays readText := by
  refine ⟨fun {bytes blanks rest rest' s} hvalue hblanks h => ?_⟩
  obtain ⟨b, tail, rfl, hb, -⟩ := hvalue.begins
  rw [List.cons_append] at h
  by_cases hquote : b = 0x22
  · subst hquote
    rw [readText, skipBlanks_append_cons hblanks hb] at h
    exact readQuoted_stays hvalue.isText h
  · exact absurd h (not_readText hblanks hb hquote _)

/-! ## Lists -/

section Lists

variable {α : Type} {item : Reader α} {items : List Bytes} {bytes blanks rest rest' : Bytes}
  {values : List α}

/-- A round over an item that succeeds has read the item. -/
theorem readItems_round (hstays : Stays item) {value input : Bytes} (hvalue : IsValue value)
    {fuel index : Nat} {first : Bool} (hfirst : decide (index = 0) = first)
    (hnext : nextItem first input = .ok (some (value ++ rest)))
    (h : readItems item (fuel + 1) index input = .ok (values, rest')) :
    ¬Refuses item value ∧
      ∃ values', readItems item fuel (index + 1) rest = .ok (values', rest') := by
  rw [readItems, hfirst, hnext] at h
  obtain ⟨_, hitem, h⟩ := bind_eq_ok h
  cases hitem
  obtain ⟨⟨a, behind⟩, hread, h⟩ := bind_eq_ok h
  obtain ⟨⟨values', _⟩, hothers, h⟩ := bind_eq_ok h
  cases h
  have hhere := mapError_eq_ok.1 hread
  obtain rfl := hstays.rest_eq hvalue Blanks.nil hhere
  exact ⟨not_refuses_of_read hhere, values', hothers⟩

theorem readItems_of_closing {fuel index : Nat} (hblanks : Blanks blanks)
    (h : readItems item fuel index (blanks ++ 0x5D :: rest) = .ok (values, rest')) :
    rest' = rest := by
  cases fuel with
  | zero => cases h
  | succ fuel =>
    rw [readItems, nextItem_closing _ hblanks] at h
    simp only [bind, Except.bind, closeList_closing hblanks] at h
    cases h
    rfl

theorem readItems_of_behind (hstays : Stays item) (hbehind : Behind 0x5D items bytes)
    (hitems : ∀ v ∈ items, IsValue v) {fuel index : Nat}
    (h : readItems item fuel (index + 1) (bytes ++ rest) = .ok (values, rest')) :
    rest' = rest ∧ ∀ v ∈ items, ¬Refuses item v := by
  induction hbehind generalizing fuel index values with
  | closing hblanks =>
    rw [List.append_assoc] at h
    exact ⟨readItems_of_closing hblanks h, fun v hv => (List.not_mem_nil hv).elim⟩
  | comma hblanks hblanks' _ ih =>
    cases fuel with
    | zero => cases h
    | succ fuel =>
      obtain ⟨hvalue, hpieces⟩ := List.forall_mem_cons.1 hitems
      simp only [List.append_assoc, List.cons_append] at h
      obtain ⟨hread, values', hothers⟩ :=
        readItems_round hstays hvalue (by rfl) (hvalue.nextItem_behind hblanks hblanks' _) h
      obtain ⟨hrest, hreads⟩ := ih hpieces hothers
      exact ⟨hrest, List.forall_mem_cons.2 ⟨hread, hreads⟩⟩

theorem readItems_of_isList (hstays : Stays item) (hlist : IsList items (0x5B :: bytes))
    (hitems : ∀ v ∈ items, IsValue v) {fuel : Nat}
    (h : readItems item fuel 0 (bytes ++ rest) = .ok (values, rest')) :
    rest' = rest ∧ ∀ v ∈ items, ¬Refuses item v := by
  cases hlist with
  | nothing hblanks =>
    rw [List.append_assoc] at h
    exact ⟨readItems_of_closing hblanks h, fun v hv => (List.not_mem_nil hv).elim⟩
  | pieces hblanks hbehind =>
    cases fuel with
    | zero => cases h
    | succ fuel =>
      obtain ⟨hvalue, hpieces⟩ := List.forall_mem_cons.1 hitems
      rw [List.append_assoc, List.append_assoc] at h
      obtain ⟨hread, values', hothers⟩ :=
        readItems_round hstays hvalue (by rfl) (hvalue.nextItem_opened hblanks _) h
      obtain ⟨hrest, hreads⟩ := readItems_of_behind hstays hbehind hpieces hothers
      exact ⟨hrest, List.forall_mem_cons.2 ⟨hread, hreads⟩⟩

theorem readList_of_isList (hstays : Stays item) (hlist : IsList items bytes)
    (hitems : ∀ v ∈ items, IsValue v) (hblanks : Blanks blanks)
    (h : readList item (blanks ++ (bytes ++ rest)) = .ok (values, rest')) :
    rest' = rest ∧ ∀ v ∈ items, ¬Refuses item v := by
  obtain ⟨tail, rfl⟩ := hlist.begins
  rw [List.cons_append, readList, skipBlanks_append_cons hblanks (by rfl)] at h
  exact readItems_of_isList hstays hlist hitems h

theorem readList_stays (hstays : Stays item) : Stays (readList item) := by
  refine ⟨fun {bytes blanks rest rest' values} hvalue hblanks h => ?_⟩
  obtain ⟨b, tail, rfl, hb, -⟩ := hvalue.begins
  by_cases hbracket : b = 0x5B
  · subst hbracket
    obtain ⟨items, hlist, hitems⟩ := hvalue.isList
    exact (readList_of_isList hstays hlist hitems hblanks h).1
  · exact absurd h (not_readList hblanks hb hbracket _)

end Lists

/-! ## Structures -/

theorem setting_stays {α ρ : Type} {value : Reader α} (set : ρ → α → ρ) (h : Stays value) :
    Stays (setting value set) := by
  refine ⟨fun {bytes blanks rest rest' _} hvalue hblanks hread => ?_⟩
  obtain ⟨⟨a, behind⟩, hread, hset⟩ := bind_eq_ok hread
  cases hset
  exact h.rest_eq hvalue hblanks hread

theorem setting_refuses {α ρ : Type} {value : Reader α} (set : ρ → α → ρ) {bytes : Bytes}
    (h : Refuses value bytes) : Refuses (setting value set) bytes := by
  intro blanks rest hblanks success hread
  obtain ⟨a, hread, -⟩ := bind_eq_ok hread
  exact h blanks rest hblanks a hread

/-- The field is read no further than its value goes, is given once it is read, and no field that is
given gets lost by that. -/
structure Field.Settles {ρ : Type} (fields : List (Field ρ)) (field : Field ρ) : Prop where
  stays : Stays field.read
  gives : ∀ input set rest, field.read input = .ok (set, rest) →
    ∀ given, field.isGiven (set given) = true
  keeps : ∀ other ∈ fields, field.Keeps (other.isGiven · = true)

def Orderly {ρ : Type} (fields : List (Field ρ)) : Prop := ∀ field ∈ fields, field.Settles fields

theorem Field.settles_setting {α ρ : Type} {fields : List (Field ρ)} {name : String}
    {isGiven : ρ → Bool} {value : Reader α} {set : ρ → α → ρ} (hstays : Stays value)
    (hgives : ∀ given a, isGiven (set given a) = true)
    (hkeeps : ∀ other ∈ fields, ∀ given a, other.isGiven given = true →
      other.isGiven (set given a) = true) :
    Field.Settles fields ⟨name, isGiven, setting value set⟩ where
  stays := setting_stays set hstays
  gives input set' rest hread given := by
    obtain ⟨⟨a, _⟩, -, hlast⟩ := bind_eq_ok hread
    cases hlast
    exact hgives given a
  keeps other hother := Field.keeps_setting fun _ a _ _ given => hkeeps other hother given a

/-- The member is the field, however its name is written. -/
def Knows {ρ : Type} (fields : List (Field ρ)) (field : Field ρ) (m : Member) : Prop :=
  ∃ name, Spells name m.name ∧ fields.find? (·.name = name) = some field

/-- Members that are accepted: no field is there that has been given or is given by another one of
them, and none is given a value that it refuses. -/
structure Accepted {ρ : Type} (fields : List (Field ρ)) (given : ρ) (members : List Member) :
    Prop where
  fresh : ∀ m ∈ members, ∀ field, Knows fields field m → field.isGiven given = false
  reads : ∀ m ∈ members, ∀ field, Knows fields field m → ¬Refuses field.read m.value
  once : members.Pairwise fun m m' => ∀ field, Knows fields field m → ¬Knows fields field m'

namespace Accepted

variable {ρ : Type} {fields : List (Field ρ)} {given : ρ} {m : Member} {members : List Member}

theorem nil : Accepted fields given [] where
  fresh _ hm := (List.not_mem_nil hm).elim
  reads _ hm := (List.not_mem_nil hm).elim
  once := .nil

theorem cons_other (h : Accepted fields given members) (hm : ∀ field, ¬Knows fields field m) :
    Accepted fields given (m :: members) where
  fresh := List.forall_mem_cons.2 ⟨fun field hknows => (hm field hknows).elim, h.fresh⟩
  reads := List.forall_mem_cons.2 ⟨fun field hknows => (hm field hknows).elim, h.reads⟩
  once := .cons (fun _ _ field hknows => (hm field hknows).elim) h.once

theorem cons_field {field : Field ρ} {given' : ρ} (h : Accepted fields given' members)
    (hm : ∀ other, Knows fields other m → other = field) (hfresh : field.isGiven given = false)
    (hread : ¬Refuses field.read m.value) (hgives : field.isGiven given' = true)
    (hkeeps : ∀ other ∈ fields, other.isGiven given = true → other.isGiven given' = true) :
    Accepted fields given (m :: members) where
  fresh := by
    refine List.forall_mem_cons.2 ⟨fun other hknows => ?_, fun m' hm' other hknows => ?_⟩
    · rw [hm other hknows]
      exact hfresh
    · cases hgiven : other.isGiven given with
      | false => rfl
      | true =>
        obtain ⟨name, -, hfind⟩ := id hknows
        have hstill := hkeeps other (List.mem_of_find?_eq_some hfind) hgiven
        rw [h.fresh m' hm' other hknows] at hstill
        cases hstill
  reads := by
    refine List.forall_mem_cons.2 ⟨fun other hknows => ?_, h.reads⟩
    rw [hm other hknows]
    exact hread
  once := by
    refine .cons (fun m' hm' other hknows hknows' => ?_) h.once
    have hgiven := h.fresh m' hm' other hknows'
    rw [hm other hknows, hgives] at hgiven
    cases hgiven

end Accepted

namespace Struct

variable {ρ α : Type} {fields : List (Field ρ)} {given last : ρ} {m : Member}
  {blanks blanks' bytes rest rest' : Bytes}

/-- The name of a member is read up to its end, as the text that it spells. -/
theorem nextMember_stays (hproper : m.Proper) {tail : Bytes} (htext : m.text ++ rest = 0x22 :: tail)
    {next : Option String × Bytes}
    (h : (readQuoted tail).bind (fun (s, rest) => .ok (some s, rest)) = .ok next) :
    ∃ name, next = (some name, m.beforeColon ++ 0x3A :: (m.afterColon ++ (m.value ++ rest))) ∧
      ∀ name', Spells name' m.name → name' = name := by
  obtain ⟨body, hbody, hname⟩ := id hproper.name
  have htail : tail = (body ++ [0x22]) ++
      (m.beforeColon ++ 0x3A :: (m.afterColon ++ (m.value ++ rest))) := by
    rw [Member.text, hname] at htext
    simpa using htext.symm
  obtain ⟨⟨name, behind⟩, hread, hnext⟩ := bind_eq_ok h
  cases hnext
  rw [htail] at hread
  have hbehind := readQuoted_stays ⟨body, hbody, rfl⟩ hread
  refine ⟨name, by rw [hbehind], fun name' hspells => ?_⟩
  obtain ⟨tail', htail', hread'⟩ := hspells.readQuoted
  rw [hname] at htail'
  cases htail'
  rw [hread'] at hread
  cases hread
  rfl

/-- A round over a member that succeeds has read a field that was not given yet, or has skipped a
member that is no field. -/
theorem readMembers_round (horderly : Orderly fields) (hproper : m.Proper)
    (hvalue : IsValue m.value) (hrest : Delimited rest) {first : Bool} {fuel : Nat} {input : Bytes}
    {name : String} (hspells : ∀ name', Spells name' m.name → name' = name)
    (hnext : nextMember first input = .ok (some name,
      m.beforeColon ++ 0x3A :: (m.afterColon ++ (m.value ++ rest))))
    (h : readMembers fields (fuel + 1) first given input = .ok (last, rest')) :
    ∃ given', readMembers fields fuel false given' rest = .ok (last, rest') ∧
      ∀ members, Accepted fields given' members → Accepted fields given (m :: members) := by
  have hcolon := readColon_colon hproper.beforeColon (m.afterColon ++ (m.value ++ rest))
  cases hfind : fields.find? (·.name = name) with
  | none =>
    have hskip := skipValue_value hvalue hproper.afterColon hrest
    rw [readMembers_other hnext hfind hcolon hskip] at h
    refine ⟨given, h, fun members hothers => hothers.cons_other ?_⟩
    rintro field ⟨name', hname', hknown⟩
    rw [hspells name' hname', hfind] at hknown
    cases hknown
  | some field =>
    have hfield : field ∈ fields := List.mem_of_find?_eq_some hfind
    cases hfresh : field.isGiven given with
    | true =>
      rw [readMembers, hnext] at h
      simp only [bind, Except.bind, hfind, hfresh] at h
      cases h
    | false =>
      rw [readMembers_field hnext hfind hfresh hcolon] at h
      obtain ⟨⟨set, behind⟩, hread, hbehind⟩ := bind_eq_ok h
      have hhere := mapError_eq_ok.1 hread
      obtain rfl := (horderly field hfield).stays.rest_eq hvalue hproper.afterColon hhere
      refine ⟨set given, hbehind, fun members hothers => hothers.cons_field ?_ hfresh ?_ ?_ ?_⟩
      · rintro other ⟨name', hname', hknown⟩
        rw [hspells name' hname', hfind] at hknown
        cases hknown
        rfl
      · exact fun hrefuses => hrefuses _ _ hproper.afterColon _ hhere
      · exact (horderly field hfield).gives _ _ _ hhere given
      · exact fun other hother => (horderly field hfield).keeps other hother _ _ _ hhere given

/-- The same, where the round comes to the name by itself. -/
theorem readMembers_of_next (horderly : Orderly fields) (hproper : m.Proper)
    (hvalue : IsValue m.value) (hrest : Delimited rest) {first : Bool} {fuel : Nat} {input : Bytes}
    (hnext : ∀ tail, m.text ++ rest = 0x22 :: tail →
      nextMember first input = (readQuoted tail).bind fun (s, rest) => .ok (some s, rest))
    (h : readMembers fields (fuel + 1) first given input = .ok (last, rest')) :
    ∃ given', readMembers fields fuel false given' rest = .ok (last, rest') ∧
      ∀ members, Accepted fields given' members → Accepted fields given (m :: members) := by
  obtain ⟨tail, htext⟩ := hproper.begins
  have htail : m.text ++ rest = 0x22 :: (tail ++ rest) := by rw [htext, List.cons_append]
  have hround := id h
  rw [readMembers] at hround
  obtain ⟨next, hread, -⟩ := bind_eq_ok hround
  obtain ⟨name, rfl, hspells⟩ := nextMember_stays hproper htail ((hnext _ htail).symm.trans hread)
  exact readMembers_round horderly hproper hvalue hrest hspells hread h

theorem readMembers_of_behind (horderly : Orderly fields) {members : List Member}
    (hbehind : Behind 0x7D (members.map Member.text) bytes) (hproper : ∀ m ∈ members, m.Proper)
    (hvalues : ∀ m ∈ members, IsValue m.value) {fuel : Nat}
    (h : readMembers fields fuel false given (bytes ++ rest) = .ok (last, rest')) :
    rest' = rest ∧ Accepted fields given members := by
  induction members generalizing bytes given fuel with
  | nil =>
    cases fuel with
    | zero => cases h
    | succ fuel =>
      cases hbehind with
      | closing hblanks =>
        rw [List.append_assoc, List.singleton_append, readMembers_closing hblanks] at h
        cases h
        exact ⟨rfl, .nil⟩
  | cons m members ih =>
    cases fuel with
    | zero => cases h
    | succ fuel =>
      cases hbehind with
      | @comma blanks blanks' _ bytes _ hblanks hblanks' hothers =>
        obtain ⟨hm, hproper⟩ := List.forall_mem_cons.1 hproper
        obtain ⟨hvalue, hvalues⟩ := List.forall_mem_cons.1 hvalues
        simp only [List.append_assoc, List.cons_append] at h
        obtain ⟨given', hread, haccepted⟩ := readMembers_of_next horderly hm hvalue
          (hothers.delimited rfl rest)
          (fun tail htail => by rw [htail, nextMember_behind hblanks hblanks']) h
        obtain ⟨hrest, hothers⟩ := ih hothers hproper hvalues hread
        exact ⟨hrest, haccepted members hothers⟩

theorem readMembers_of_hasMembers (horderly : Orderly fields) {members : List Member}
    (hobject : HasMembers members (0x7B :: bytes)) (hproper : ∀ m ∈ members, m.Proper)
    (hvalues : ∀ m ∈ members, IsValue m.value) {fuel : Nat}
    (h : readMembers fields fuel true given (bytes ++ rest) = .ok (last, rest')) :
    rest' = rest ∧ Accepted fields given members := by
  cases fuel with
  | zero => cases h
  | succ fuel =>
    cases members with
    | nil =>
      cases hobject with
      | nothing hblanks =>
        rw [List.append_assoc, List.singleton_append, readMembers_closing hblanks] at h
        cases h
        exact ⟨rfl, .nil⟩
    | cons m members =>
      cases hobject with
      | @pieces blanks _ bytes _ hblanks hbehind =>
        obtain ⟨hm, hproper⟩ := List.forall_mem_cons.1 hproper
        obtain ⟨hvalue, hvalues⟩ := List.forall_mem_cons.1 hvalues
        rw [List.append_assoc, List.append_assoc] at h
        obtain ⟨given', hread, haccepted⟩ := readMembers_of_next horderly hm hvalue
          (hbehind.delimited rfl rest)
          (fun tail htail => by rw [htail, nextMember_opened hblanks]) h
        obtain ⟨hrest, hothers⟩ := readMembers_of_behind horderly hbehind hproper hvalues hread
        exact ⟨hrest, haccepted members hothers⟩

/-- A round over an item that succeeds has read the field of its place. -/
theorem readItems_round {field : Field ρ} (hstays : Stays field.read) {value input : Bytes}
    (hvalue : IsValue value) {index : Nat} {behind : Bytes} {first : Bool}
    (hfirst : decide (index = 0) = first)
    (hnext : nextItem first input = .ok (some (value ++ rest)))
    (h : readItems (field :: fields) index given input = .ok (last, behind)) :
    ¬Refuses field.read value ∧
      ∃ given', readItems fields (index + 1) given' rest = .ok (last, behind) := by
  rw [readItems, hfirst, hnext] at h
  obtain ⟨_, hitem, h⟩ := bind_eq_ok h
  cases hitem
  obtain ⟨⟨set, rest'⟩, hread, hothers⟩ := bind_eq_ok h
  have hhere := mapError_eq_ok.1 hread
  obtain rfl := hstays.rest_eq hvalue Blanks.nil hhere
  exact ⟨not_refuses_of_read hhere, set given, hothers⟩

/-- Where the list ends, no more fields are read. -/
theorem readItems_of_closing (hblanks : Blanks blanks) {index : Nat} {behind : Bytes}
    (h : readItems fields index given (blanks ++ 0x5D :: rest) = .ok (last, behind))
    (hclose : closeList behind = .ok rest') : rest' = rest := by
  have hbehind : behind = blanks ++ 0x5D :: rest := by
    cases fields with
    | nil =>
      cases h
      rfl
    | cons field fields =>
      rw [readItems, nextItem_closing _ hblanks] at h
      cases h
      rfl
  rw [hbehind, closeList_closing hblanks] at hclose
  cases hclose
  rfl

/-- Fields that are read from a list up to its end have each read the item in their place. -/
theorem readItems_of_behind {items : List Bytes} (hstays : ∀ field ∈ fields, Stays field.read)
    (hbehind : Behind 0x5D items bytes) (hitems : ∀ v ∈ items, IsValue v) {index : Nat}
    {behind : Bytes} (h : readItems fields (index + 1) given (bytes ++ rest) = .ok (last, behind))
    (hclose : closeList behind = .ok rest') :
    rest' = rest ∧ ∀ p ∈ fields.zip items, ¬Refuses p.1.read p.2 := by
  induction hbehind generalizing fields index given with
  | closing hblanks =>
    rw [List.append_assoc] at h
    refine ⟨readItems_of_closing hblanks h hclose, fun p hp => ?_⟩
    rw [List.zip_nil_right] at hp
    exact (List.not_mem_nil hp).elim
  | comma hblanks hblanks' _ ih =>
    simp only [List.append_assoc, List.cons_append] at h
    cases fields with
    | nil =>
      cases h
      rw [closeList, skipBlanks_append_cons hblanks (by rfl)] at hclose
      cases hclose
    | cons field fields =>
      obtain ⟨hfield, hfields⟩ := List.forall_mem_cons.1 hstays
      obtain ⟨hvalue, hpieces⟩ := List.forall_mem_cons.1 hitems
      obtain ⟨hread, given', hothers⟩ :=
        readItems_round hfield hvalue (by rfl) (hvalue.nextItem_behind hblanks hblanks' _) h
      obtain ⟨hrest, hreads⟩ := ih hfields hpieces hothers
      exact ⟨hrest, List.forall_mem_cons.2 ⟨hread, hreads⟩⟩

theorem readItems_of_isList {items : List Bytes} (hstays : ∀ field ∈ fields, Stays field.read)
    (hlist : IsList items (0x5B :: bytes)) (hitems : ∀ v ∈ items, IsValue v) {behind : Bytes}
    (h : readItems fields 0 given (bytes ++ rest) = .ok (last, behind))
    (hclose : closeList behind = .ok rest') :
    rest' = rest ∧ ∀ p ∈ fields.zip items, ¬Refuses p.1.read p.2 := by
  cases hlist with
  | nothing hblanks =>
    rw [List.append_assoc] at h
    refine ⟨readItems_of_closing hblanks h hclose, fun p hp => ?_⟩
    rw [List.zip_nil_right] at hp
    exact (List.not_mem_nil hp).elim
  | pieces hblanks hbehind =>
    rw [List.append_assoc, List.append_assoc] at h
    obtain ⟨hvalue, hpieces⟩ := List.forall_mem_cons.1 hitems
    cases fields with
    | nil =>
      cases h
      obtain ⟨b, tail, rfl, hb, hclosing, -⟩ := hvalue.begins
      rw [List.cons_append, closeList, skipBlanks_append_cons hblanks hb] at hclose
      simp only [if_neg hclosing] at hclose
      cases hclose
    | cons field fields =>
      obtain ⟨hfield, hfields⟩ := List.forall_mem_cons.1 hstays
      obtain ⟨hread, given', hothers⟩ :=
        readItems_round hfield hvalue (by rfl) (hvalue.nextItem_opened hblanks _) h
      obtain ⟨hrest, hreads⟩ := readItems_of_behind hfields hbehind hpieces hothers hclose
      exact ⟨hrest, List.forall_mem_cons.2 ⟨hread, hreads⟩⟩

variable {struct : Struct ρ α} {a : α}

theorem read_of_isList (horderly : Orderly struct.fields) {items : List Bytes}
    (hlist : IsList items bytes) (hitems : ∀ v ∈ items, IsValue v) (hblanks : Blanks blanks)
    (h : struct.read (blanks ++ (bytes ++ rest)) = .ok (a, rest')) :
    rest' = rest ∧ ∀ p ∈ struct.fields.zip items, ¬Refuses p.1.read p.2 := by
  obtain ⟨tail, rfl⟩ := hlist.begins
  rw [List.cons_append, read, skipBlanks_append_cons hblanks (by rfl)] at h
  simp only [if_true] at h
  obtain ⟨⟨given, behind⟩, hread, h⟩ := bind_eq_ok h
  simp only at h
  split at h
  · obtain ⟨_, hclose, h⟩ := bind_eq_ok h
    cases h
    exact readItems_of_isList (fun field hfield => (horderly field hfield).stays) hlist hitems hread
      hclose
  · cases h

theorem read_of_hasMembers (horderly : Orderly struct.fields) {members : List Member}
    (hobject : HasMembers members bytes) (hproper : ∀ m ∈ members, m.Proper)
    (hvalues : ∀ m ∈ members, IsValue m.value) (hblanks : Blanks blanks)
    (h : struct.read (blanks ++ (bytes ++ rest)) = .ok (a, rest')) :
    rest' = rest ∧ Accepted struct.fields struct.start members := by
  obtain ⟨tail, rfl⟩ := hobject.begins
  rw [List.cons_append, read, skipBlanks_append_cons hblanks (by rfl)] at h
  simp only [if_true] at h
  obtain ⟨⟨given, behind⟩, hread, h⟩ := bind_eq_ok h
  simp only at h
  split at h
  · cases h
    exact readMembers_of_hasMembers horderly hobject hproper hvalues hread
  · cases h

theorem not_read {b : UInt8} (hblanks : Blanks blanks) (hb : isBlank b = false)
    (hbracket : b ≠ 0x5B) (hbrace : b ≠ 0x7B) (success : α × Bytes) :
    struct.read (blanks ++ b :: rest) ≠ .ok success := by
  rw [read, skipBlanks_append_cons hblanks hb]
  simp only [if_neg hbracket, if_neg hbrace]
  intro h
  cases h

theorem read_stays (horderly : Orderly struct.fields) : Stays struct.read := by
  refine ⟨fun {bytes blanks rest rest' a} hvalue hblanks h => ?_⟩
  obtain ⟨b, tail, rfl, hb, -⟩ := hvalue.begins
  by_cases hbracket : b = 0x5B
  · subst hbracket
    obtain ⟨items, hlist, hitems⟩ := hvalue.isList
    exact (read_of_isList horderly hlist hitems hblanks h).1
  · by_cases hbrace : b = 0x7B
    · subst hbrace
      obtain ⟨members, hobject, hproper, hvalues⟩ := hvalue.hasMembers
      exact (read_of_hasMembers horderly hobject hproper hvalues hblanks h).1
    · exact absurd h (not_read hblanks hb hbracket hbrace _)

end Struct

end HostRegistry.Json
