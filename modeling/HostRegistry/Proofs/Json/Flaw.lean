import HostRegistry.Proofs.Json.Refusal

/-!
# Flaws

A structure has a flaw when one of its known members stands twice in an object, or is null, or has a
value with a flaw of its own; and also when the item in the place of a known member is null or has
such a flaw, where the structure is a list of its fields. What is flawed is refused.
-/

namespace HostRegistry.Json

/-- An object of any members. -/
structure IsPlainObject (members : List Member) (bytes : Bytes) : Prop where
  object : HasMembers members bytes
  proper : ∀ m ∈ members, m.Proper
  values : ∀ m ∈ members, IsValue m.value

/-- A list of any values, one of which is flawed. -/
def ListFlawed (Flawed : Bytes → Prop) (bytes : Bytes) : Prop :=
  ∃ items, IsList items bytes ∧ (∀ item ∈ items, IsValue item) ∧ ∃ item ∈ items, Flawed item

/-- A member that a structure knows, and when its value is flawed in itself. -/
structure Concern where
  name : String
  Flawed : Bytes → Prop

inductive StructFlawed (known : List Concern) (bytes : Bytes) : Prop
  | repeated {members : List Member} {m m' : Member} {concern : Concern}
      (hobject : IsPlainObject members bytes) (hknown : concern ∈ known)
      (hname : Spells concern.name m.name) (hname' : Spells concern.name m'.name)
      (htwice : [m, m'].Sublist members)
  | member {members : List Member} {m : Member} {concern : Concern}
      (hobject : IsPlainObject members bytes) (hknown : concern ∈ known) (hm : m ∈ members)
      (hname : Spells concern.name m.name) (hvalue : m.value = null ∨ concern.Flawed m.value)
  | item {items : List Bytes} {item : Bytes} {concern : Concern} (hlist : IsList items bytes)
      (hitems : ∀ v ∈ items, IsValue v) (hplace : (concern, item) ∈ known.zip items)
      (hitem : item = null ∨ concern.Flawed item)

theorem refuses_of_listFlawed {α : Type} {item : Reader α} {Flawed : Bytes → Prop} {bytes : Bytes}
    (hstays : Stays item) (hitem : ∀ v, Flawed v → Refuses item v) (h : ListFlawed Flawed bytes) :
    Refuses (readList item) bytes := by
  obtain ⟨items, hlist, hitems, v, hv, hflawed⟩ := h
  intro blanks rest hblanks success hread
  exact (readList_of_isList hstays hlist hitems hblanks hread).2 v hv (hitem v hflawed)

/-- The field reads the member, and refuses null and flawed values of it. -/
structure Field.Guards {ρ : Type} (fields : List (Field ρ)) (field : Field ρ) (concern : Concern) :
    Prop where
  known : fields.find? (·.name = concern.name) = some field
  null : Refuses field.read null
  flawed : ∀ v, concern.Flawed v → Refuses field.read v

section Guards

variable {ρ α : Type} {fields guards : List (Field ρ)} {known : List Concern} {concern : Concern}

theorem exists_guard (h : List.Forall₂ (Field.Guards fields) guards known)
    (hconcern : concern ∈ known) : ∃ field : Field ρ, field.Guards fields concern := by
  induction h with
  | nil => exact (List.not_mem_nil hconcern).elim
  | cons hguard _ ih =>
    rcases List.mem_cons.1 hconcern with rfl | hconcern
    · exact ⟨_, hguard⟩
    · exact ih hconcern

theorem exists_guard_zip (h : List.Forall₂ (Field.Guards fields) guards known) {items : List Bytes}
    {item : Bytes} (hplace : (concern, item) ∈ known.zip items) :
    ∃ field, field.Guards fields concern ∧ (field, item) ∈ guards.zip items := by
  induction h generalizing items with
  | nil => exact (List.not_mem_nil hplace).elim
  | cons hguard _ ih =>
    cases items with
    | nil => exact (List.not_mem_nil hplace).elim
    | cons head items =>
      rcases List.mem_cons.1 hplace with hhead | hplace
      · cases hhead
        exact ⟨_, hguard, .head _⟩
      · obtain ⟨field, hfield, hmem⟩ := ih hplace
        exact ⟨field, hfield, .tail _ hmem⟩

theorem Field.Guards.refuses {field : Field ρ} (h : field.Guards fields concern) {value : Bytes}
    (hvalue : value = Json.null ∨ concern.Flawed value) : Refuses field.read value := by
  rcases hvalue with rfl | hflawed
  · exact h.null
  · exact h.flawed value hflawed

theorem refuses_of_structFlawed {struct : Struct ρ α} (horderly : Orderly struct.fields)
    (hguards : List.Forall₂ (Field.Guards struct.fields) struct.fields known) {bytes : Bytes}
    (h : StructFlawed known bytes) : Refuses struct.read bytes := by
  intro blanks rest hblanks success hread
  cases h with
  | repeated hobject hknown hname hname' htwice =>
    obtain ⟨field, hfield⟩ := exists_guard hguards hknown
    have haccepted := (Struct.read_of_hasMembers horderly hobject.object hobject.proper
      hobject.values hblanks hread).2
    have honce := List.pairwise_pair.1 (haccepted.once.sublist htwice)
    exact honce field ⟨_, hname, hfield.known⟩ ⟨_, hname', hfield.known⟩
  | member hobject hknown hm hname hvalue =>
    obtain ⟨field, hfield⟩ := exists_guard hguards hknown
    have haccepted := (Struct.read_of_hasMembers horderly hobject.object hobject.proper
      hobject.values hblanks hread).2
    exact haccepted.reads _ hm field ⟨_, hname, hfield.known⟩ (hfield.refuses hvalue)
  | item hlist hitems hplace hitem =>
    obtain ⟨field, hfield, hmem⟩ := exists_guard_zip hguards hplace
    have hreads := (Struct.read_of_isList horderly hlist hitems hblanks hread).2
    exact hreads _ hmem (hfield.refuses hitem)

end Guards

end HostRegistry.Json
