import HostRegistry.Proofs.Json.Skip
import HostRegistry.Proofs.Json.Spelling
import Mathlib.Data.List.Forall2

/-!
# Objects with their members in any order

A list is read item by item, whatever blanks stand between the items. An object is read as a
structure whatever the order of its members, when each field that must be given is given once and
none is given twice. Members that are no field do not matter, whatever their values are.
-/

namespace HostRegistry.Json

/-! ## From one item or member to the next -/

section Moves

variable {blanks blanks' : Bytes}

theorem nextItem_closing (first : Bool) (hblanks : Blanks blanks) (rest : Bytes) :
    nextItem first (blanks ++ 0x5D :: rest) = .ok none := by
  rw [nextItem, skipBlanks_append_cons hblanks (by rfl)]
  rfl

theorem closeList_closing (hblanks : Blanks blanks) (rest : Bytes) :
    closeList (blanks ++ 0x5D :: rest) = .ok rest := by
  rw [closeList, skipBlanks_append_cons hblanks (by rfl)]
  rfl

theorem nextItem_opened (hblanks : Blanks blanks) {b : UInt8} (hb : isBlank b = false)
    (hclosing : b ≠ 0x5D) (tail : Bytes) :
    nextItem true (blanks ++ b :: tail) = .ok (some (b :: tail)) := by
  rw [nextItem, skipBlanks_append_cons hblanks hb]
  simp only [if_neg hclosing, if_true]

theorem nextItem_behind (hblanks : Blanks blanks) (hblanks' : Blanks blanks') {b : UInt8}
    (hb : isBlank b = false) (hclosing : b ≠ 0x5D) (tail : Bytes) :
    nextItem false (blanks ++ comma :: (blanks' ++ b :: tail)) = .ok (some (b :: tail)) := by
  rw [nextItem, skipBlanks_append_cons hblanks (by rfl)]
  simp only [comma, skipBlanks_append_cons hblanks' hb, if_neg hclosing]
  rfl

namespace Struct

theorem nextMember_closing (first : Bool) (hblanks : Blanks blanks) (rest : Bytes) :
    nextMember first (blanks ++ 0x7D :: rest) = .ok (none, rest) := by
  rw [nextMember, skipBlanks_append_cons hblanks (by rfl)]
  rfl

theorem nextMember_opened (hblanks : Blanks blanks) (tail : Bytes) :
    nextMember true (blanks ++ 0x22 :: tail) =
      (readQuoted tail).bind fun (s, rest) => .ok (some s, rest) := by
  rw [nextMember, skipBlanks_append_cons hblanks (by rfl)]
  rfl

theorem nextMember_behind (hblanks : Blanks blanks) (hblanks' : Blanks blanks') (tail : Bytes) :
    nextMember false (blanks ++ comma :: (blanks' ++ 0x22 :: tail)) =
      (readQuoted tail).bind fun (s, rest) => .ok (some s, rest) := by
  have hquote : isBlank 0x22 = false := rfl
  rw [nextMember, skipBlanks_append_cons hblanks (by rfl)]
  simp only [comma, skipBlanks_append_cons hblanks' hquote]
  rfl

theorem nextMember_spells_opened (hblanks : Blanks blanks) {m : String × Member}
    (hname : Spells m.1 m.2.name) (rest : Bytes) :
    nextMember true (blanks ++ (m.2.text ++ rest)) =
      .ok (some m.1, m.2.beforeColon ++ 0x3A :: (m.2.afterColon ++ (m.2.value ++ rest))) := by
  obtain ⟨tail, htail, hread⟩ := hname.readQuoted
  simp only [Member.text, htail, List.cons_append, List.append_assoc]
  rw [nextMember_opened hblanks, hread]
  rfl

theorem nextMember_spells_behind (hblanks : Blanks blanks) (hblanks' : Blanks blanks')
    {m : String × Member} (hname : Spells m.1 m.2.name) (rest : Bytes) :
    nextMember false (blanks ++ comma :: (blanks' ++ (m.2.text ++ rest))) =
      .ok (some m.1, m.2.beforeColon ++ 0x3A :: (m.2.afterColon ++ (m.2.value ++ rest))) := by
  obtain ⟨tail, htail, hread⟩ := hname.readQuoted
  simp only [Member.text, htail, List.cons_append, List.append_assoc]
  rw [nextMember_behind hblanks hblanks', hread]
  rfl

theorem readColon_colon (hblanks : Blanks blanks) (rest : Bytes) :
    readColon (blanks ++ 0x3A :: rest) = .ok rest := by
  rw [readColon, skipBlanks_append_cons hblanks (by rfl)]
  rfl

end Struct

end Moves

theorem Behind.length {closing : UInt8} {pieces : List Bytes} {bytes : Bytes}
    (h : Behind closing pieces bytes) : pieces.length < bytes.length := by
  induction h with
  | closing => simp only [List.length_append, List.length_singleton, List.length_nil]; omega
  | comma _ _ _ ih => simp only [List.length_append, List.length_cons]; omega

/-! ## Lists -/

section Lists

variable {α : Type} {item : Reader α}

theorem readItems_behind {items : List Bytes} {bytes : Bytes} (h : Behind 0x5D items bytes)
    {values : List α} (hitems : List.Forall₂ (Reads item) items values) {fuel : Nat} (index : Nat)
    (hfuel : items.length < fuel) (rest : Bytes) :
    readItems item fuel (index + 1) (bytes ++ rest) = .ok (values, rest) := by
  induction h generalizing values fuel index with
  | closing hblanks =>
    cases hitems
    obtain ⟨fuel, rfl⟩ := Nat.exists_eq_add_one.2 hfuel
    rw [List.append_assoc, List.singleton_append, readItems, nextItem_closing _ hblanks]
    simp only [bind, Except.bind, closeList_closing hblanks]
    rfl
  | comma hblanks hblanks' _ ih =>
    cases hitems with
    | @cons _ value _ values hvalue hothers =>
      rw [List.length_cons] at hfuel
      obtain ⟨fuel, rfl⟩ := Nat.exists_eq_add_one.2 (Nat.zero_lt_of_lt hfuel)
      obtain ⟨b, tail, rfl, hb, hclosing⟩ := hvalue.begins
      have hread := ih hothers (index + 1) (Nat.lt_of_succ_lt_succ hfuel)
      have hhere := hvalue.read_here
      simp only [List.append_assoc, List.cons_append] at hhere ⊢
      rw [readItems, decide_eq_false (Nat.succ_ne_zero index),
        nextItem_behind hblanks hblanks' hb hclosing]
      simp only [bind, Except.bind, hhere, mapError_ok, hread]
      rfl

theorem reads_isList {items : List Bytes} {bytes : Bytes} (h : IsList items bytes)
    {values : List α} (hitems : List.Forall₂ (Reads item) items values) :
    Reads (readList item) bytes values := by
  cases h with
  | nothing hblanks' =>
    cases hitems
    refine ⟨⟨0x5B, _, rfl, by decide, by decide⟩, fun blanks rest hblanks => ?_⟩
    rw [List.cons_append, List.append_assoc, List.singleton_append, readList,
      skipBlanks_append_cons hblanks (by decide)]
    simp only [if_true]
    rw [readItems, nextItem_closing _ hblanks']
    simp only [bind, Except.bind, closeList_closing hblanks']
    rfl
  | @pieces blanks' piece bytes pieces hblanks' hbehind =>
    cases hitems with
    | @cons _ value _ values hvalue hothers =>
      refine ⟨⟨0x5B, _, rfl, by decide, by decide⟩, fun blanks rest hblanks => ?_⟩
      have hhere := hvalue.read_here
      have hlength := hbehind.length
      obtain ⟨b, tail, rfl, hb, hclosing⟩ := hvalue.begins
      have henough : pieces.length < (blanks' ++ (b :: tail ++ bytes) ++ rest).length := by
        simp only [List.length_append]
        omega
      have hothers := readItems_behind hbehind hothers 0 henough rest
      simp only [List.append_assoc, List.cons_append] at hhere hothers ⊢
      rw [readList, skipBlanks_append_cons hblanks (by decide)]
      simp only [if_true]
      rw [readItems, decide_eq_true rfl, nextItem_opened hblanks' hb hclosing]
      simp only [bind, Except.bind, hhere, mapError_ok, hothers]
      rfl

/-- The list stands for the values, one after the other. -/
def ListLaidOut (P : α → Bytes → Prop) (values : List α) (bytes : Bytes) : Prop :=
  ∃ items, IsList items bytes ∧ List.Forall₂ P values items

theorem ListLaidOut.isValue {P : α → Bytes → Prop} {values : List α} {bytes : Bytes}
    (hitem : ∀ a bytes, P a bytes → IsValue bytes) (h : ListLaidOut P values bytes) :
    IsValue bytes := by
  obtain ⟨items, hlist, hvalues⟩ := h
  refine .list hlist fun v hv => ?_
  clear hlist
  induction hvalues with
  | nil => exact (List.not_mem_nil hv).elim
  | cons hhead _ ih =>
    rcases List.mem_cons.1 hv with rfl | hv
    · exact hitem _ _ hhead
    · exact ih hv

theorem ListLaidOut.reads {P : α → Bytes → Prop} {values : List α} {bytes : Bytes}
    (hitem : ∀ a bytes, P a bytes → Reads item bytes a) (h : ListLaidOut P values bytes) :
    Reads (readList item) bytes values := by
  obtain ⟨items, hlist, hvalues⟩ := h
  exact reads_isList hlist (hvalues.imp hitem).flip

end Lists

/-! ## Objects -/

theorem Reads.setting {α ρ : Type} {value : Reader α} {bytes : Bytes} {a : α}
    (h : Reads value bytes a) (set : ρ → α → ρ) :
    Reads (Json.setting value set) bytes fun given => set given a := by
  refine ⟨h.begins, fun blanks rest hblanks => ?_⟩
  rw [Json.setting]
  simp only [h.read blanks rest hblanks, bind, Except.bind, pure, Except.pure]

/-- A member that a structure knows: what its value looks like, and whether it may be left out. -/
structure Slot where
  name : String
  laidOut : Bytes → Prop
  optional : Prop

/-- Members with the texts that their names spell: what is a slot's stands once at most and looks
like the slot says. -/
structure Fits (slots : List Slot) (members : List (String × Member)) : Prop where
  names : ∀ m ∈ members, Spells m.1 m.2.name ∧ m.2.Proper
  values : ∀ m ∈ members, IsValue m.2.value
  known : ∀ m ∈ members, ∀ slot ∈ slots, slot.name = m.1 → slot.laidOut m.2.value
  once : members.Pairwise fun m m' => ∀ slot ∈ slots, slot.name = m.1 → slot.name ≠ m'.1

/-- No slot of these members has been given. -/
def Fresh (slots : List Slot) (members : List (String × Member)) (given : List String) : Prop :=
  ∀ m ∈ members, ∀ slot ∈ slots, slot.name = m.1 → slot.name ∉ given

/-- An object that has what belongs to the slots, among any other members. -/
structure IsObject (slots : List Slot) (members : List (String × Member)) (bytes : Bytes) :
    Prop where
  object : HasMembers (members.map Prod.snd) bytes
  fits : Fits slots members
  complete : ∀ slot ∈ slots, slot.optional ∨ slot.name ∈ members.map Prod.fst

def ObjectLaidOut (slots : List Slot) (bytes : Bytes) : Prop :=
  ∃ members, IsObject slots members bytes

theorem ObjectLaidOut.isValue {slots : List Slot} {bytes : Bytes} (h : ObjectLaidOut slots bytes) :
    IsValue bytes := by
  obtain ⟨members, hobject, hfits, -⟩ := h
  refine .object hobject (fun m hm => ?_) fun m hm => ?_
  · obtain ⟨named, hnamed, rfl⟩ := List.mem_map.1 hm
    exact (hfits.names named hnamed).2
  · obtain ⟨named, hnamed, rfl⟩ := List.mem_map.1 hm
    exact hfits.values named hnamed

/-- The field reads what the slot holds, from whatever names have been given to what is given with
the slot's name, too. -/
structure Field.Fills {ρ : Type} (part : List String → ρ) (field : Field ρ) (slot : Slot) :
    Prop where
  name : field.name = slot.name
  fresh : ∀ given, slot.name ∉ given → field.isGiven (part given) = false
  reads : ∃ set : ρ → ρ, (∀ given, set (part given) = part (slot.name :: given)) ∧
    ∀ bytes, slot.laidOut bytes → Reads field.read bytes set

theorem Field.fills_setting {ρ α : Type} {part : List String → ρ} {name : String}
    {isGiven : ρ → Bool} {value : Reader α} {set : ρ → α → ρ} {a : α} {laidOut : Bytes → Prop}
    {optional : Prop} (hreads : ∀ bytes, laidOut bytes → Reads value bytes a)
    (hfresh : ∀ given, name ∉ given → isGiven (part given) = false)
    (hset : ∀ given, set (part given) a = part (name :: given)) :
    Field.Fills part ⟨name, isGiven, setting value set⟩ ⟨name, laidOut, optional⟩ where
  name := rfl
  fresh := hfresh
  reads := ⟨fun given => set given a, hset, fun bytes h => (hreads bytes h).setting set⟩

namespace Fits

variable {slots : List Slot} {m : String × Member} {members : List (String × Member)}

theorem tail (h : Fits slots (m :: members)) : Fits slots members where
  names m' hm' := h.names m' (.tail _ hm')
  values m' hm' := h.values m' (.tail _ hm')
  known m' hm' := h.known m' (.tail _ hm')
  once := h.once.tail

theorem fresh_tail (h : Fits slots (m :: members)) {given : List String}
    (hfresh : Fresh slots (m :: members) given) : Fresh slots members (m.1 :: given) := by
  intro m' hm' slot hslot hname hmem
  rcases List.mem_cons.1 hmem with hfirst | hgiven
  · exact List.rel_of_pairwise_cons h.once hm' slot hslot hfirst hname
  · exact hfresh m' (.tail _ hm') slot hslot hname hgiven

end Fits

namespace Struct

variable {ρ α : Type}

/-- What a structure is made up from depends on the names that have been given. -/
structure Gathers (struct : Struct ρ α) (slots : List Slot) (part : List String → ρ) (a : α) :
    Prop where
  start : part [] = struct.start
  fills : ∀ field ∈ struct.fields, ∃ slot ∈ slots, field.Fills part slot
  others : ∀ name given, struct.fields.find? (·.name = name) = none →
    part (name :: given) = part given
  finish : ∀ given, (∀ slot ∈ slots, slot.optional ∨ slot.name ∈ given) →
    struct.finish (part given) = .ok a

/-- One round over a member that is a field, which is not given yet. -/
theorem readMembers_field {fields : List (Field ρ)} {first : Bool} {fuel : Nat} {given : ρ}
    {name : String} {field : Field ρ} {input tail behind : Bytes}
    (hnext : nextMember first input = .ok (some name, tail))
    (known : fields.find? (·.name = name) = some field) (fresh : field.isGiven given = false)
    (hcolon : readColon tail = .ok behind) :
    readMembers fields (fuel + 1) first given input =
      ((field.read behind).mapError (·.under (.field name))).bind fun (set, rest) =>
        readMembers fields fuel false (set given) rest := by
  rw [readMembers, hnext]
  simp only [bind, Except.bind, known, fresh, hcolon]
  rfl

/-- One round over a member that is no field. -/
theorem readMembers_other {fields : List (Field ρ)} {first : Bool} {fuel : Nat} {given : ρ}
    {name : String} {input tail behind rest : Bytes}
    (hnext : nextMember first input = .ok (some name, tail))
    (unknown : fields.find? (·.name = name) = none) (hcolon : readColon tail = .ok behind)
    (hskip : skipValue behind = .ok rest) :
    readMembers fields (fuel + 1) first given input = readMembers fields fuel false given rest := by
  rw [readMembers, hnext]
  simp only [bind, Except.bind, unknown, hcolon, hskip]

theorem readMembers_closing {fields : List (Field ρ)} {first : Bool} {fuel : Nat} {given : ρ}
    {blanks : Bytes} (hblanks : Blanks blanks) (rest : Bytes) :
    readMembers fields (fuel + 1) first given (blanks ++ 0x7D :: rest) = .ok (given, rest) := by
  rw [readMembers, nextMember_closing first hblanks]
  rfl

theorem read_of_readMembers {struct : Struct ρ α} {blanks input rest : Bytes} {last : ρ} {a : α}
    (hblanks : ∀ b ∈ blanks, isBlank b = true)
    (hmembers : readMembers struct.fields (input.length + 1) true struct.start input =
      .ok (last, rest))
    (hfinish : struct.finish last = .ok a) :
    struct.read (blanks ++ 0x7B :: input) = .ok (a, rest) := by
  rw [read, skipBlanks_append_cons hblanks (by decide)]
  simp only [hmembers, bind, Except.bind, hfinish]
  rfl

variable {struct : Struct ρ α} {slots : List Slot} {part : List String → ρ} {a : α}

/-- One round over a member of an object that is laid out for the slots. -/
theorem Gathers.readMembers_member (h : struct.Gathers slots part a) {m : String × Member}
    {members : List (String × Member)} (hfits : Fits slots (m :: members)) {given : List String}
    (hfresh : ∀ slot ∈ slots, slot.name = m.1 → slot.name ∉ given) {first : Bool} {fuel : Nat}
    {input rest : Bytes} (hrest : Delimited rest)
    (hnext : nextMember first input = .ok (some m.1,
      m.2.beforeColon ++ 0x3A :: (m.2.afterColon ++ (m.2.value ++ rest)))) :
    readMembers struct.fields (fuel + 1) first (part given) input =
      readMembers struct.fields fuel false (part (m.1 :: given)) rest := by
  have hproper : m.2.Proper := (hfits.names m (.head _)).2
  have hcolon := readColon_colon hproper.beforeColon (m.2.afterColon ++ (m.2.value ++ rest))
  cases hfind : struct.fields.find? (·.name = m.1) with
  | none =>
    have hskip := skipValue_value (hfits.values m (.head _)) hproper.afterColon hrest
    rw [readMembers_other hnext hfind hcolon hskip, h.others m.1 given hfind]
  | some field =>
    have hname : field.name = m.1 := by simpa using List.find?_some hfind
    obtain ⟨slot, hslot, hfills⟩ := h.fills field (List.mem_of_find?_eq_some hfind)
    have hsame : slot.name = m.1 := hfills.name.symm.trans hname
    obtain ⟨set, hset, hreads⟩ := hfills.reads
    have hread := (hreads m.2.value (hfits.known m (.head _) slot hslot hsame)).read m.2.afterColon
      rest hproper.afterColon
    rw [readMembers_field hnext hfind (hfills.fresh given (hfresh slot hslot hsame)) hcolon, hread]
    show readMembers struct.fields fuel false (set (part given)) rest = _
    rw [hset, hsame]

/-- The members behind the first one give their names one after the other. -/
theorem Gathers.readMembers_behind (h : struct.Gathers slots part a)
    {members : List (String × Member)} {bytes : Bytes}
    (hbehind : Behind 0x7D ((members.map Prod.snd).map Member.text) bytes)
    (hfits : Fits slots members) {given : List String}
    (hfresh : Fresh slots members given) {fuel : Nat} (hfuel : members.length < fuel)
    (rest : Bytes) :
    readMembers struct.fields fuel false (part given) (bytes ++ rest) =
      .ok (part ((members.map Prod.fst).reverse ++ given), rest) := by
  induction members generalizing bytes given fuel with
  | nil =>
    obtain ⟨fuel, rfl⟩ := Nat.exists_eq_add_one.2 hfuel
    cases hbehind with
    | closing hblanks =>
      rw [List.append_assoc]
      exact readMembers_closing hblanks rest
  | cons m members ih =>
    obtain ⟨fuel, rfl⟩ := Nat.exists_eq_add_one.2 (Nat.zero_lt_of_lt hfuel)
    cases hbehind with
    | @comma blanks blanks' _ bytes _ hblanks hblanks' hothers =>
      have hnext := nextMember_spells_behind hblanks hblanks' (hfits.names m (.head _)).1
        (bytes ++ rest)
      simp only [List.append_assoc, List.cons_append] at hnext ⊢
      rw [h.readMembers_member hfits (hfresh m (.head _)) (hothers.delimited rfl rest) hnext,
        ih hothers hfits.tail (hfits.fresh_tail hfresh) (Nat.lt_of_succ_lt_succ hfuel),
        List.map_cons, List.reverse_cons, List.append_assoc, List.singleton_append]

/-- An object that is laid out for the slots is read as the structure, in whatever order its members
stand. -/
theorem Gathers.reads (h : struct.Gathers slots part a) {bytes : Bytes}
    (hlaidOut : ObjectLaidOut slots bytes) : Reads struct.read bytes a := by
  obtain ⟨members, hobject, hfits, hcomplete⟩ := hlaidOut
  have hfinish : struct.finish (part (members.map Prod.fst).reverse) = .ok a := by
    apply h.finish
    intro slot hslot
    rw [List.mem_reverse]
    exact hcomplete slot hslot
  cases members with
  | nil =>
    cases hobject with
    | nothing hblanks' =>
      refine ⟨⟨0x7B, _, rfl, by decide, by decide⟩, fun blanks rest hblanks => ?_⟩
      rw [List.cons_append, List.append_assoc]
      refine read_of_readMembers hblanks ?_ hfinish
      rw [← h.start]
      exact readMembers_closing hblanks' rest
  | cons m members =>
    cases hobject with
    | @pieces blanks' _ bytes _ hblanks' hbehind =>
      refine ⟨⟨0x7B, _, rfl, by decide, by decide⟩, fun blanks rest hblanks => ?_⟩
      rw [List.cons_append, List.append_assoc, List.append_assoc]
      refine read_of_readMembers hblanks ?_ hfinish
      have hnext := nextMember_spells_opened hblanks' (hfits.names m (.head _)).1 (bytes ++ rest)
      have hfuel : members.length < (blanks' ++ (m.2.text ++ (bytes ++ rest))).length := by
        have hlength := hbehind.length
        simp only [List.length_map, List.length_append] at hlength ⊢
        omega
      have hfresh : Fresh slots (m :: members) [] := fun _ _ _ _ _ => List.not_mem_nil
      rw [← h.start, h.readMembers_member hfits (hfresh m (.head _))
        (hbehind.delimited rfl rest) hnext,
        h.readMembers_behind hbehind hfits.tail (hfits.fresh_tail hfresh) hfuel, List.map_cons,
        List.reverse_cons]

end Struct

end HostRegistry.Json
