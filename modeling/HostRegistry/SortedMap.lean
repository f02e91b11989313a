/-!
# Maps in key order

A finite map whose entries are kept in strictly ascending key order. The order is part of the type,
so two maps with the same look-ups are the same value, and everything that is listed from a map
comes out in key order. All changes go through `alter`, which rewrites the value at one key.
-/

namespace HostRegistry

open Std

/-- Keys ascend strictly along the list. -/
def Ascending {κ α : Type} [Ord κ] (entries : List (κ × α)) : Prop :=
  entries.Pairwise fun a b => compare a.1 b.1 = .lt

structure SortedMap (κ α : Type) [Ord κ] where
  entries : List (κ × α)
  ascending : Ascending entries

namespace SortedMap

section Entries

variable {κ α : Type} [Ord κ]

def lookup (k : κ) : List (κ × α) → Option α
  | [] => none
  | (k', v) :: rest => if compare k k' = .eq then some v else lookup k rest

/-- The entry for a key, if it has a value. -/
def entry (k : κ) : Option α → List (κ × α)
  | some v => [(k, v)]
  | none => []

/-- Rewrites the value at `k`, where `none` stands for an absent key. -/
def alterEntries (k : κ) (f : Option α → Option α) : List (κ × α) → List (κ × α)
  | [] => entry k (f none)
  | (k', v) :: rest =>
    match compare k k' with
    | .lt => entry k (f none) ++ (k', v) :: rest
    | .eq => entry k' (f (some v)) ++ rest
    | .gt => (k', v) :: alterEntries k f rest

omit [Ord κ] in
theorem mem_entry {k : κ} {o : Option α} {e : κ × α} (h : e ∈ entry k o) : e.1 = k := by
  cases o with
  | none => cases h
  | some v => cases List.mem_singleton.1 h; rfl

theorem ascending_entry_append {k : κ} {o : Option α} {rest : List (κ × α)}
    (hk : ∀ e ∈ rest, compare k e.1 = .lt) (hrest : Ascending rest) :
    Ascending (entry k o ++ rest) := by
  cases o with
  | none => exact hrest
  | some v => exact List.Pairwise.cons hk hrest

theorem key_of_mem_alterEntries {k : κ} {f : Option α → Option α} {entries : List (κ × α)}
    {e : κ × α} (h : e ∈ alterEntries k f entries) : e.1 = k ∨ ∃ e' ∈ entries, e'.1 = e.1 := by
  induction entries with
  | nil => exact .inl (mem_entry h)
  | cons head rest ih =>
    obtain ⟨k', v⟩ := head
    simp only [alterEntries] at h
    split at h
    · rcases List.mem_append.1 h with h | h
      · exact .inl (mem_entry h)
      · exact .inr ⟨e, h, rfl⟩
    · rcases List.mem_append.1 h with h | h
      · exact .inr ⟨(k', v), .head _, (mem_entry h).symm⟩
      · exact .inr ⟨e, .tail _ h, rfl⟩
    · rcases List.mem_cons.1 h with h | h
      · exact .inr ⟨(k', v), .head _, by rw [h]⟩
      · exact (ih h).imp_right fun ⟨e', he', hk⟩ => ⟨e', .tail _ he', hk⟩

theorem ascending_alterEntries [TransOrd κ] {k : κ} {f : Option α → Option α}
    {entries : List (κ × α)} (h : Ascending entries) : Ascending (alterEntries k f entries) := by
  induction entries with
  | nil =>
    simp only [alterEntries]
    cases f none with
    | none => exact .nil
    | some v => exact List.pairwise_singleton ..
  | cons head rest ih =>
    obtain ⟨k', v⟩ := head
    have hhead : ∀ e ∈ rest, compare k' e.1 = .lt := (List.pairwise_cons.1 h).1
    have hrest : Ascending rest := (List.pairwise_cons.1 h).2
    simp only [alterEntries]
    split
    next hlt =>
      refine ascending_entry_append (fun e he => ?_) h
      rcases List.mem_cons.1 he with he | he
      · rw [he]; exact hlt
      · exact TransCmp.lt_trans hlt (hhead e he)
    next heq => exact ascending_entry_append hhead hrest
    next hgt =>
      refine List.Pairwise.cons (fun e he => ?_) (ih hrest)
      rcases key_of_mem_alterEntries he with he | ⟨e', he', hk⟩
      · rw [he]; exact OrientedCmp.gt_iff_lt.1 hgt
      · rw [← hk]; exact hhead e' he'

end Entries

variable {κ α β : Type} [Ord κ]

instance [DecidableEq κ] [DecidableEq α] : DecidableEq (SortedMap κ α) := fun a b =>
  if h : a.entries = b.entries then
    .isTrue (by cases a; cases b; cases h; rfl)
  else
    .isFalse fun e => h (by rw [e])

def empty : SortedMap κ α := ⟨[], .nil⟩

instance : Inhabited (SortedMap κ α) := ⟨empty⟩

def isEmpty (m : SortedMap κ α) : Bool := m.entries.isEmpty

def size (m : SortedMap κ α) : Nat := m.entries.length

def keys (m : SortedMap κ α) : List κ := m.entries.map (·.1)

def values (m : SortedMap κ α) : List α := m.entries.map (·.2)

def get? (m : SortedMap κ α) (k : κ) : Option α := lookup k m.entries

def contains (m : SortedMap κ α) (k : κ) : Bool := (m.get? k).isSome

/-- Applies `f` to every value; the keys stay. -/
def mapValues (f : α → β) (m : SortedMap κ α) : SortedMap κ β where
  entries := m.entries.map fun e => (e.1, f e.2)
  ascending := by
    have h := m.ascending
    exact List.pairwise_map.2 h

variable [TransOrd κ]

def alter (m : SortedMap κ α) (k : κ) (f : Option α → Option α) : SortedMap κ α :=
  ⟨alterEntries k f m.entries, ascending_alterEntries m.ascending⟩

def insert (m : SortedMap κ α) (k : κ) (v : α) : SortedMap κ α := m.alter k fun _ => some v

def erase (m : SortedMap κ α) (k : κ) : SortedMap κ α := m.alter k fun _ => none

/-- The last value given for a key is the one kept. -/
def ofList (entries : List (κ × α)) : SortedMap κ α :=
  entries.foldl (fun m e => m.insert e.1 e.2) empty

end SortedMap

/-- A finite set, listed in ascending order. -/
abbrev SortedSet (α : Type) [Ord α] := SortedMap α Unit

namespace SortedSet

variable {α : Type} [Ord α]

def toList (s : SortedSet α) : List α := s.keys

variable [TransOrd α]

def add (s : SortedSet α) (a : α) : SortedSet α := SortedMap.insert s a ()

def remove (s : SortedSet α) (a : α) : SortedSet α := SortedMap.erase s a

def ofList (items : List α) : SortedSet α := items.foldl add SortedMap.empty

end SortedSet

end HostRegistry
