import HostRegistry.Proofs.Json.Members

/-!
# What is laid out over lines

A list or object that is written one item or member a line is laid out like any other: the blanks
are the line ends and what the lines begin with, and each text is spelled the writer's way.
-/

namespace HostRegistry.Json

variable {level : Nat}

/-! ## Lists -/

/-- The items behind the first one, and the end of the list. -/
theorem behind_prettyItems (level : Nat) (items : List Value) :
    Behind 0x5D (items.map (pretty (level + 1))) (prettyItems level items) := by
  induction items with
  | nil =>
    rw [prettyItems]
    exact .closing fun _ => isBlank_of_mem_newLine
  | cons item rest ih =>
    rw [prettyItems, List.append_assoc]
    exact .comma Blanks.nil (fun _ => isBlank_of_mem_newLine) ih

theorem isList_pretty (level : Nat) (items : List Value) :
    IsList (items.map (pretty (level + 1))) (pretty level (.list items)) := by
  cases items with
  | nil =>
    rw [pretty]
    exact .nothing Blanks.nil
  | cons item rest =>
    rw [pretty, List.append_assoc]
    exact .pieces (fun _ => isBlank_of_mem_newLine) (behind_prettyItems level rest)

theorem listLaidOut_pretty {α : Type} {P : α → Bytes → Prop} {render : α → Value} {values : List α}
    (h : ∀ a ∈ values, P a (pretty (level + 1) (render a))) :
    ListLaidOut P values (pretty level (.list (values.map render))) := by
  refine ⟨_, isList_pretty level _, ?_⟩
  rw [List.map_map, List.forall₂_map_right_iff, List.forall₂_same]
  exact h

/-! ## Objects -/

/-- The member as it is written: with a blank behind its colon. -/
def prettyMember (level : Nat) (m : String × Value) : String × Member :=
  (m.1, ⟨quoted m.1, [], [0x20], pretty level m.2⟩)

/-- The members behind the first one, and the end of the object. -/
theorem behind_prettyMembers (level : Nat) (members : List (String × Value)) :
    Behind 0x7D (((members.map (prettyMember (level + 1))).map Prod.snd).map Member.text)
      (prettyMembers level members) := by
  induction members with
  | nil =>
    rw [prettyMembers]
    exact .closing fun _ => isBlank_of_mem_newLine
  | cons m rest ih =>
    have htext : prettyMembers level (m :: rest) = [] ++ comma :: (newLine (level + 1) ++
        ((prettyMember (level + 1) m).2.text ++ prettyMembers level rest)) := by
      simp [prettyMembers, prettyMember, Member.text]
    rw [htext]
    exact .comma Blanks.nil (fun _ => isBlank_of_mem_newLine) ih

theorem hasMembers_pretty (level : Nat) (members : List (String × Value)) :
    HasMembers ((members.map (prettyMember (level + 1))).map Prod.snd)
      (pretty level (.object members)) := by
  cases members with
  | nil =>
    rw [pretty]
    exact .nothing Blanks.nil
  | cons m rest =>
    have htext : pretty level (.object (m :: rest)) = 0x7B :: (newLine (level + 1) ++
        ((prettyMember (level + 1) m).2.text ++ prettyMembers level rest)) := by
      simp [pretty, prettyMember, Member.text]
    rw [htext]
    exact .pieces (fun _ => isBlank_of_mem_newLine) (behind_prettyMembers level rest)

/-- An object is laid out for the slots by members of different names that look like the slots say
and leave none out. -/
theorem objectLaidOut_pretty {slots : List Slot} {members : List (String × Value)}
    (hvalues : ∀ m ∈ members, IsValue (pretty (level + 1) m.2))
    (hknown : ∀ m ∈ members, ∀ slot ∈ slots, slot.name = m.1 →
      slot.laidOut (pretty (level + 1) m.2))
    (hnames : members.Pairwise fun m m' => m.1 ≠ m'.1)
    (hcomplete : ∀ slot ∈ slots, slot.name ∈ members.map Prod.fst) :
    ObjectLaidOut slots (pretty level (.object members)) := by
  have hmember : ∀ {p : String × Member → Prop},
      (∀ m ∈ members.map (prettyMember (level + 1)), p m) ↔
        ∀ m ∈ members, p (prettyMember (level + 1) m) := List.forall_mem_map
  have hblank : Blanks [0x20] := List.forall_mem_singleton.2 rfl
  refine ⟨_, hasMembers_pretty level members, ⟨?_, ?_, ?_, ?_⟩, fun slot hslot => .inr ?_⟩
  · rw [hmember]
    intro m _
    exact ⟨spells_quoted m.1, (spells_quoted m.1).isText, Blanks.nil, hblank⟩
  · exact hmember.2 hvalues
  · exact hmember.2 hknown
  · rw [List.pairwise_map]
    exact hnames.imp fun hne slot _ hname hname' => hne (hname.symm.trans hname')
  · rw [List.map_map]
    exact hcomplete slot hslot

end HostRegistry.Json
