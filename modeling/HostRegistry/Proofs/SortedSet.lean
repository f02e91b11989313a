import HostRegistry.SortedMap.Lookup

/-!
# Members of sorted maps and sets

The keys and values of a map are those of its entries. A sorted set is known by its members: what
each operation does to them, and that two sets with the same members are one set.
-/

namespace HostRegistry

open Std

namespace SortedMap

variable {κ α : Type} [Ord κ] [TransOrd κ] [LawfulEqOrd κ]

theorem mem_keys_iff {m : SortedMap κ α} {k : κ} : k ∈ m.keys ↔ ∃ v, m.get? k = some v := by
  simp only [keys, List.mem_map]
  constructor
  · rintro ⟨⟨k', v⟩, hmem, rfl⟩
    exact ⟨v, mem_entries_iff.1 hmem⟩
  · rintro ⟨v, hv⟩
    exact ⟨(k, v), mem_entries_iff.2 hv, rfl⟩

theorem mem_values_iff {m : SortedMap κ α} {v : α} : v ∈ m.values ↔ ∃ k, m.get? k = some v := by
  simp only [values, List.mem_map]
  constructor
  · rintro ⟨⟨k, v'⟩, hmem, rfl⟩
    exact ⟨k, mem_entries_iff.1 hmem⟩
  · rintro ⟨k, hv⟩
    exact ⟨(k, v), mem_entries_iff.2 hv, rfl⟩

omit [TransOrd κ] [LawfulEqOrd κ] in
theorem keys_mapValues {β : Type} (f : α → β) (m : SortedMap κ α) :
    (m.mapValues f).keys = m.keys := by
  change (m.entries.map fun e => (e.1, f e.2)).map (·.1) = m.entries.map (·.1)
  rw [List.map_map]
  rfl

end SortedMap

namespace SortedSet

variable {α : Type} [Ord α] [TransOrd α] [LawfulEqOrd α]

theorem mem_toList_iff {s : SortedSet α} {a : α} : a ∈ s.toList ↔ s.get? a = some () := by
  rw [toList, SortedMap.mem_keys_iff]
  exact ⟨fun ⟨_, h⟩ => h, fun h => ⟨(), h⟩⟩

omit [TransOrd α] [LawfulEqOrd α] in
@[simp]
theorem not_mem_toList_empty (a : α) : a ∉ toList (SortedMap.empty : SortedSet α) := by
  simp [toList, SortedMap.keys, SortedMap.empty]

@[simp]
theorem mem_toList_add {s : SortedSet α} {a b : α} :
    b ∈ (s.add a).toList ↔ b = a ∨ b ∈ s.toList := by
  rw [mem_toList_iff, mem_toList_iff, add]
  by_cases h : b = a
  · subst h
    simp
  · rw [SortedMap.get?_insert_of_ne s () h]
    simp [h]

@[simp]
theorem mem_toList_remove {s : SortedSet α} {a b : α} :
    b ∈ (s.remove a).toList ↔ b ≠ a ∧ b ∈ s.toList := by
  rw [mem_toList_iff, mem_toList_iff, remove]
  by_cases h : b = a
  · subst h
    simp
  · rw [SortedMap.get?_erase_of_ne s h]
    simp [h]

private theorem mem_toList_foldl_add (items : List α) (s : SortedSet α) {a : α} :
    a ∈ (items.foldl add s).toList ↔ a ∈ items ∨ a ∈ s.toList := by
  induction items generalizing s with
  | nil => simp
  | cons item rest ih =>
    rw [List.foldl_cons, ih, mem_toList_add, List.mem_cons, or_left_comm, or_assoc]

@[simp]
theorem mem_toList_ofList {items : List α} {a : α} : a ∈ (ofList items).toList ↔ a ∈ items := by
  simp [ofList, mem_toList_foldl_add]

omit [TransOrd α] [LawfulEqOrd α] in
theorem isEmpty_iff {s : SortedSet α} : s.isEmpty = true ↔ s.toList = [] := by
  obtain ⟨entries, hasc⟩ := s
  simp [SortedMap.isEmpty, toList, SortedMap.keys]

/-- A set is determined by its members. -/
theorem ext_mem {s t : SortedSet α} (h : ∀ a, a ∈ s.toList ↔ a ∈ t.toList) : s = t := by
  refine SortedMap.ext_get? fun a => ?_
  have ha := h a
  rw [mem_toList_iff, mem_toList_iff] at ha
  cases hs : s.get? a with
  | none => cases ht : t.get? a with
    | none => rfl
    | some _ => rw [hs, ht] at ha; simp at ha
  | some _ => exact (ha.1 hs).symm

end SortedSet

end HostRegistry
