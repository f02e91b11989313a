import HostRegistry.SortedMap

/-!
# Looking up after a change

What `get?` gives after each change of a sorted map. Rewriting one key leaves the others alone, and
two maps in which every key has the same value are one map.
-/

namespace HostRegistry.SortedMap

open Std

variable {κ α β : Type} [Ord κ]

section Entries

theorem lookup_eq_none {k : κ} {entries : List (κ × α)}
    (h : ∀ e ∈ entries, compare k e.1 ≠ .eq) : lookup k entries = none := by
  induction entries with
  | nil => rfl
  | cons head rest ih =>
    rw [lookup, if_neg (h head (.head _))]
    exact ih fun e he => h e (.tail _ he)

theorem lookup_entry_append_of_ne {k k' : κ} {o : Option α} {rest : List (κ × α)}
    (h : compare k' k ≠ .eq) : lookup k' (entry k o ++ rest) = lookup k' rest := by
  cases o with
  | none => rfl
  | some v => rw [entry, List.cons_append, List.nil_append, lookup, if_neg h]

theorem lookup_entry_append_self {k k' : κ} {o : Option α} {rest : List (κ × α)}
    (hkey : compare k k' = .eq) (hrest : ∀ e ∈ rest, compare k e.1 ≠ .eq) :
    lookup k (entry k' o ++ rest) = o := by
  cases o with
  | none => exact lookup_eq_none hrest
  | some v => rw [entry, List.cons_append, lookup, if_pos hkey]

variable [TransOrd κ]

theorem lookup_alterEntries_self {k : κ} {f : Option α → Option α} {entries : List (κ × α)}
    (h : Ascending entries) : lookup k (alterEntries k f entries) = f (lookup k entries) := by
  induction entries with
  | nil =>
    rw [alterEntries, ← List.append_nil (entry k (f none))]
    exact lookup_entry_append_self ReflCmp.compare_self (fun _ he => by cases he)
  | cons head rest ih =>
    obtain ⟨k', v⟩ := head
    have hhead : ∀ e ∈ rest, compare k' e.1 = .lt := (List.pairwise_cons.1 h).1
    rw [alterEntries, lookup]
    cases hkey : compare k k' with
    | lt =>
      have hrest : ∀ e ∈ rest, compare k e.1 ≠ .eq := fun e he => by
        rw [TransCmp.lt_trans hkey (hhead e he)]
        decide
      rw [if_neg (by decide), lookup_eq_none hrest]
      refine lookup_entry_append_self ReflCmp.compare_self fun e he => ?_
      rcases List.mem_cons.1 he with he | he
      · rw [he, hkey]
        decide
      · exact hrest e he
    | eq =>
      rw [if_pos rfl]
      refine lookup_entry_append_self hkey fun e he => ?_
      rw [TransCmp.lt_of_eq_of_lt hkey (hhead e he)]
      decide
    | gt =>
      rw [if_neg (by decide)]
      rw [lookup, hkey, if_neg (by decide)]
      exact ih (List.pairwise_cons.1 h).2

theorem lookup_alterEntries_of_ne {k k' : κ} {f : Option α → Option α} {entries : List (κ × α)}
    (h : compare k' k ≠ .eq) : lookup k' (alterEntries k f entries) = lookup k' entries := by
  induction entries with
  | nil =>
    rw [alterEntries, ← List.append_nil (entry k (f none))]
    exact lookup_entry_append_of_ne h
  | cons head rest ih =>
    obtain ⟨k₁, v⟩ := head
    rw [alterEntries]
    cases hkey : compare k k₁ with
    | lt => exact lookup_entry_append_of_ne h
    | eq =>
      have hne : compare k' k₁ ≠ .eq := fun heq =>
        h (TransCmp.eq_trans heq (OrientedCmp.eq_symm hkey))
      rw [lookup, if_neg hne]
      exact lookup_entry_append_of_ne hne
    | gt => rw [lookup, lookup, ih]

omit [TransOrd κ] in
theorem mem_of_lookup [LawfulEqOrd κ] {k : κ} {v : α} {entries : List (κ × α)}
    (h : lookup k entries = some v) : (k, v) ∈ entries := by
  induction entries with
  | nil => cases h
  | cons head rest ih =>
    obtain ⟨k', v'⟩ := head
    rw [lookup] at h
    split at h
    next heq =>
      cases h
      rw [LawfulEqCmp.eq_of_compare heq]
      exact .head _
    next => exact .tail _ (ih h)

theorem lookup_of_mem {k : κ} {v : α} {entries : List (κ × α)} (hasc : Ascending entries)
    (h : (k, v) ∈ entries) : lookup k entries = some v := by
  induction entries with
  | nil => cases h
  | cons head rest ih =>
    obtain ⟨hhead, hrest⟩ := List.pairwise_cons.1 hasc
    rw [lookup]
    rcases List.mem_cons.1 h with h | h
    · rw [← h, if_pos ReflCmp.compare_self]
    · have hgt : compare k head.1 = .gt := OrientedCmp.gt_of_lt (hhead _ h)
      rw [hgt, if_neg (by decide)]
      exact ih hrest h

theorem ne_of_compare_lt {e e' : κ × α} (h : compare e.1 e'.1 = .lt) : e ≠ e' := fun heq => by
  rw [heq, ReflOrd.compare_self] at h
  cases h

/-- Ascending lists with the same entries are the same list. -/
theorem eq_of_ascending {xs ys : List (κ × α)} (hxs : Ascending xs) (hys : Ascending ys)
    (h : ∀ e, e ∈ xs ↔ e ∈ ys) : xs = ys := by
  induction xs generalizing ys with
  | nil =>
    cases ys with
    | nil => rfl
    | cons y ys => cases (h y).2 (.head _)
  | cons x xs ih =>
    cases ys with
    | nil => cases (h x).1 (.head _)
    | cons y ys =>
      obtain ⟨hx, hxs'⟩ := List.pairwise_cons.1 hxs
      obtain ⟨hy, hys'⟩ := List.pairwise_cons.1 hys
      have hhead : x = y := by
        rcases List.mem_cons.1 ((h x).1 (.head _)) with hxy | hxy
        · exact hxy
        · rcases List.mem_cons.1 ((h y).2 (.head _)) with hyx | hyx
          · exact hyx.symm
          · exact absurd rfl (ne_of_compare_lt (TransCmp.lt_trans (hx y hyx) (hy x hxy)))
      subst hhead
      refine congrArg _ (ih hxs' hys' fun e => ⟨fun he => ?_, fun he => ?_⟩)
      · rcases List.mem_cons.1 ((h e).1 (.tail _ he)) with heq | he'
        · exact absurd heq.symm (ne_of_compare_lt (hx e he))
        · exact he'
      · rcases List.mem_cons.1 ((h e).2 (.tail _ he)) with heq | he'
        · exact absurd heq.symm (ne_of_compare_lt (hy e he))
        · exact he'

end Entries

@[simp]
theorem get?_empty (k : κ) : (empty : SortedMap κ α).get? k = none := rfl

@[simp]
theorem get?_mapValues (f : α → β) (m : SortedMap κ α) (k : κ) :
    (m.mapValues f).get? k = (m.get? k).map f := by
  change lookup k (m.entries.map fun e => (e.1, f e.2)) = (lookup k m.entries).map f
  induction m.entries with
  | nil => rfl
  | cons head rest ih =>
    rw [List.map_cons, lookup, lookup, ih]
    split <;> rfl

variable [TransOrd κ]

theorem mem_entries_iff [LawfulEqOrd κ] {m : SortedMap κ α} {k : κ} {v : α} :
    (k, v) ∈ m.entries ↔ m.get? k = some v :=
  ⟨lookup_of_mem m.ascending, mem_of_lookup⟩

@[simp]
theorem get?_alter_self (m : SortedMap κ α) (k : κ) (f : Option α → Option α) :
    (m.alter k f).get? k = f (m.get? k) :=
  lookup_alterEntries_self m.ascending

theorem get?_alter_of_ne [LawfulEqOrd κ] (m : SortedMap κ α) {k k' : κ} (f : Option α → Option α)
    (h : k' ≠ k) : (m.alter k f).get? k' = m.get? k' :=
  lookup_alterEntries_of_ne fun heq => h (LawfulEqCmp.eq_of_compare heq)

@[simp]
theorem get?_insert_self (m : SortedMap κ α) (k : κ) (v : α) : (m.insert k v).get? k = some v :=
  m.get?_alter_self k _

theorem get?_insert_of_ne [LawfulEqOrd κ] (m : SortedMap κ α) {k k' : κ} (v : α) (h : k' ≠ k) :
    (m.insert k v).get? k' = m.get? k' :=
  m.get?_alter_of_ne _ h

@[simp]
theorem get?_erase_self (m : SortedMap κ α) (k : κ) : (m.erase k).get? k = none :=
  m.get?_alter_self k _

theorem get?_erase_of_ne [LawfulEqOrd κ] (m : SortedMap κ α) {k k' : κ} (h : k' ≠ k) :
    (m.erase k).get? k' = m.get? k' :=
  m.get?_alter_of_ne _ h

/-- A map is determined by its values. -/
theorem ext_get? [LawfulEqOrd κ] {a b : SortedMap κ α} (h : ∀ k, a.get? k = b.get? k) : a = b := by
  have hmem : ∀ e : κ × α, e ∈ a.entries ↔ e ∈ b.entries := fun e => by
    rw [mem_entries_iff (m := a), mem_entries_iff (m := b), h]
  have hentries : a.entries = b.entries := eq_of_ascending a.ascending b.ascending hmem
  cases a
  cases b
  cases hentries
  rfl

end HostRegistry.SortedMap
