import HostRegistry.Proofs.SortedSet
import HostRegistry.Snapshot.Change

/-!
# The index of container infos

An info is entered under each of its keys. What the two changes of the index do is said by `Lists`,
which tells whether a key lists an info; two indexes without empty sets that list the same infos are
one index. In a well-formed index every info is listed under all of its keys and under no other, so
the index is determined by the set of its infos.
-/

namespace HostRegistry

namespace ContainerInfo

theorem mem_keys_iff {info : ContainerInfo} {key : String} :
    key ∈ info.keys ↔ key = info.containerId ∨ key = info.aliasName := by
  rw [keys]
  split
  next h => simp [h]
  next => simp

end ContainerInfo

namespace InfoIndex

/-- The key lists the info. -/
def Lists (index : InfoIndex) (key : String) (info : ContainerInfo) : Prop :=
  ∃ infos, index.get? key = some infos ∧ info ∈ SortedSet.toList infos

/-- A key that lists nothing is forgotten. -/
def Trimmed (index : InfoIndex) : Prop :=
  ∀ key infos, index.get? key = some infos → SortedSet.toList infos ≠ []

/-- Every info is under all of its keys and under no other one. -/
structure WellFormed (index : InfoIndex) : Prop where
  trimmed : Trimmed index
  key_mem : ∀ key info, Lists index key info → key ∈ info.keys
  spread : ∀ key info, Lists index key info → ∀ key' ∈ info.keys, Lists index key' info

theorem not_lists_empty (key : String) (info : ContainerInfo) : ¬ Lists .empty key info := by
  rintro ⟨infos, h, -⟩
  cases h

theorem trimmed_empty : Trimmed .empty := fun key infos h => by cases h

theorem wellFormed_empty : WellFormed .empty where
  trimmed := trimmed_empty
  key_mem key info h := (not_lists_empty key info h).elim
  spread key info h := (not_lists_empty key info h).elim

/-- Trimmed indexes are determined by what their keys list. -/
theorem ext_lists {a b : InfoIndex} (ha : Trimmed a) (hb : Trimmed b)
    (h : ∀ key info, Lists a key info ↔ Lists b key info) : a = b := by
  refine SortedMap.ext_get? fun key => ?_
  cases hka : a.get? key with
  | none =>
    cases hkb : b.get? key with
    | none => rfl
    | some infos =>
      obtain ⟨info, hinfo⟩ := List.exists_mem_of_ne_nil _ (hb key infos hkb)
      obtain ⟨_, hsome, -⟩ := (h key info).2 ⟨infos, hkb, hinfo⟩
      rw [hka] at hsome
      cases hsome
  | some infos =>
    obtain ⟨info, hinfo⟩ := List.exists_mem_of_ne_nil _ (ha key infos hka)
    obtain ⟨infos', hkb, -⟩ := (h key info).1 ⟨infos, hka, hinfo⟩
    rw [hkb]
    refine congrArg some (SortedSet.ext_mem fun info => ?_)
    have hmem := h key info
    simp only [Lists, hka, hkb, Option.some.injEq, exists_eq_left'] at hmem
    exact hmem

/-! ## One key -/

theorem get?_indexInfo_of_ne (index : InfoIndex) (info : ContainerInfo) {key key' : String}
    (h : key' ≠ key) : (Snapshot.indexInfo index info key).get? key' = index.get? key' :=
  SortedMap.get?_alter_of_ne index _ h

theorem get?_unindexInfo_of_ne (index : InfoIndex) (info : ContainerInfo) {key key' : String}
    (h : key' ≠ key) : (Snapshot.unindexInfo index info key).get? key' = index.get? key' :=
  SortedMap.get?_alter_of_ne index _ h

theorem lists_indexInfo {index : InfoIndex} {info info' : ContainerInfo} {key key' : String} :
    Lists (Snapshot.indexInfo index info key) key' info' ↔
      (key' = key ∧ info' = info) ∨ Lists index key' info' := by
  by_cases hkey : key' = key
  · subst hkey
    simp only [Lists, Snapshot.indexInfo, SortedMap.get?_alter_self, Option.some.injEq,
      exists_eq_left', SortedSet.mem_toList_add, true_and]
    cases index.get? key' with
    | none => simp
    | some infos => simp
  · simp only [Lists, get?_indexInfo_of_ne index info hkey, hkey, false_and, false_or]

theorem lists_unindexInfo {index : InfoIndex} {info info' : ContainerInfo} {key key' : String} :
    Lists (Snapshot.unindexInfo index info key) key' info' ↔
      Lists index key' info' ∧ ¬ (key' = key ∧ info' = info) := by
  by_cases hkey : key' = key
  · subst hkey
    simp only [Lists, Snapshot.unindexInfo, SortedMap.get?_alter_self, true_and]
    cases index.get? key' with
    | none => simp
    | some infos =>
      have hmem : info' ∈ SortedSet.toList (SortedSet.remove infos info) ↔
          info' ≠ info ∧ info' ∈ SortedSet.toList infos := SortedSet.mem_toList_remove
      simp only [Option.bind_some, Option.some.injEq, exists_eq_left']
      split
      next hempty =>
        have hnil : SortedSet.toList (SortedSet.remove infos info) = [] :=
          SortedSet.isEmpty_iff.1 hempty
        rw [hnil] at hmem
        simp only [List.not_mem_nil, false_iff] at hmem
        simp only [reduceCtorEq, false_and, exists_false, false_iff]
        exact fun ⟨h, hne⟩ => hmem ⟨hne, h⟩
      next =>
        simp only [Option.some.injEq, exists_eq_left', hmem]
        exact and_comm
  · simp only [Lists, get?_unindexInfo_of_ne index info hkey, hkey, false_and, not_false_eq_true,
      and_true]

theorem Trimmed.indexInfo {index : InfoIndex} (h : Trimmed index) (info : ContainerInfo)
    (key : String) : Trimmed (Snapshot.indexInfo index info key) := by
  intro key' infos hget
  by_cases hkey : key' = key
  · subst hkey
    rw [Snapshot.indexInfo, SortedMap.get?_alter_self, Option.some.injEq] at hget
    rw [← hget]
    exact List.ne_nil_of_mem (SortedSet.mem_toList_add.2 (.inl rfl))
  · rw [get?_indexInfo_of_ne index info hkey] at hget
    exact h key' infos hget

theorem Trimmed.unindexInfo {index : InfoIndex} (h : Trimmed index) (info : ContainerInfo)
    (key : String) : Trimmed (Snapshot.unindexInfo index info key) := by
  intro key' infos hget
  by_cases hkey : key' = key
  · subst hkey
    rw [Snapshot.unindexInfo, SortedMap.get?_alter_self, Option.bind_eq_some_iff] at hget
    obtain ⟨infos', -, hget⟩ := hget
    dsimp only at hget
    split at hget
    · cases hget
    next hempty =>
      cases hget
      exact fun hnil => hempty (SortedSet.isEmpty_iff.2 hnil)
  · rw [get?_unindexInfo_of_ne index info hkey] at hget
    exact h key' infos hget

/-! ## All keys of an info -/

private theorem lists_foldl_indexInfo (keys : List String) (info : ContainerInfo)
    {index : InfoIndex} {key : String} {info' : ContainerInfo} :
    Lists (keys.foldl (Snapshot.indexInfo · info) index) key info' ↔
      (key ∈ keys ∧ info' = info) ∨ Lists index key info' := by
  induction keys generalizing index with
  | nil => simp
  | cons first rest ih =>
    rw [List.foldl_cons, ih, lists_indexInfo, List.mem_cons, or_and_right, or_left_comm, or_assoc]

private theorem lists_foldl_unindexInfo (keys : List String) (info : ContainerInfo)
    {index : InfoIndex} {key : String} {info' : ContainerInfo} :
    Lists (keys.foldl (Snapshot.unindexInfo · info) index) key info' ↔
      Lists index key info' ∧ ¬ (key ∈ keys ∧ info' = info) := by
  induction keys generalizing index with
  | nil => simp
  | cons first rest ih =>
    rw [List.foldl_cons, ih, lists_unindexInfo, List.mem_cons, or_and_right, not_or, and_assoc]

private theorem trimmed_foldl {step : InfoIndex → String → InfoIndex}
    (hstep : ∀ index key, Trimmed index → Trimmed (step index key)) (keys : List String)
    {index : InfoIndex} (h : Trimmed index) : Trimmed (keys.foldl step index) := by
  induction keys generalizing index with
  | nil => exact h
  | cons first rest ih => exact ih (hstep index first h)

end InfoIndex

namespace Snapshot

open InfoIndex

theorem mem_infos_iff {s : Snapshot} {key : String} {info : ContainerInfo} :
    info ∈ s.infos key ↔ Lists s.infoIndex key info := by
  rw [infos, InfoIndex.Lists]
  cases s.infoIndex.get? key with
  | none => simp
  | some infos => simp

theorem mem_distinctInfos_iff {s : Snapshot} {info : ContainerInfo} :
    info ∈ s.distinctInfos.toList ↔ ∃ key, Lists s.infoIndex key info := by
  rw [distinctInfos, SortedSet.mem_toList_ofList, List.mem_flatMap]
  constructor
  · rintro ⟨infos, hvalue, hinfo⟩
    obtain ⟨key, hkey⟩ := SortedMap.mem_values_iff.1 hvalue
    exact ⟨key, infos, hkey, hinfo⟩
  · rintro ⟨key, infos, hkey, hinfo⟩
    exact ⟨infos, SortedMap.mem_values_iff.2 ⟨key, hkey⟩, hinfo⟩

theorem lists_addInfo {s : Snapshot} {info info' : ContainerInfo} {key : String} :
    Lists (s.addInfo info).infoIndex key info' ↔
      (key ∈ info.keys ∧ info' = info) ∨ Lists s.infoIndex key info' :=
  lists_foldl_indexInfo info.keys info

theorem lists_removeInfo {s : Snapshot} {info info' : ContainerInfo} {key : String} :
    Lists (s.removeInfo info).infoIndex key info' ↔
      Lists s.infoIndex key info' ∧ ¬ (key ∈ info.keys ∧ info' = info) :=
  lists_foldl_unindexInfo info.keys info

theorem wellFormed_addInfo {s : Snapshot} (h : WellFormed s.infoIndex) (info : ContainerInfo) :
    WellFormed (s.addInfo info).infoIndex where
  trimmed := trimmed_foldl (fun _ key hindex => hindex.indexInfo info key) info.keys h.trimmed
  key_mem key info' hlists := by
    rcases lists_addInfo.1 hlists with ⟨hkey, rfl⟩ | hlists
    · exact hkey
    · exact h.key_mem key info' hlists
  spread key info' hlists key' hkey' := by
    rcases lists_addInfo.1 hlists with ⟨-, rfl⟩ | hlists
    · exact lists_addInfo.2 (.inl ⟨hkey', rfl⟩)
    · exact lists_addInfo.2 (.inr (h.spread key info' hlists key' hkey'))

theorem wellFormed_removeInfo {s : Snapshot} (h : WellFormed s.infoIndex) (info : ContainerInfo) :
    WellFormed (s.removeInfo info).infoIndex where
  trimmed := trimmed_foldl (fun _ key hindex => hindex.unindexInfo info key) info.keys h.trimmed
  key_mem key info' hlists := h.key_mem key info' (lists_removeInfo.1 hlists).1
  spread key info' hlists key' hkey' := by
    obtain ⟨hlists, hne⟩ := lists_removeInfo.1 hlists
    refine lists_removeInfo.2 ⟨h.spread key info' hlists key' hkey', fun ⟨_, heq⟩ => hne ⟨?_, heq⟩⟩
    rw [← heq]
    exact h.key_mem key info' hlists

/-- Where the index is well-formed, a key lists the infos that have it among their keys. -/
theorem lists_iff_mem_distinctInfos {s : Snapshot} (h : WellFormed s.infoIndex) {key : String}
    {info : ContainerInfo} :
    Lists s.infoIndex key info ↔ info ∈ s.distinctInfos.toList ∧ key ∈ info.keys := by
  rw [mem_distinctInfos_iff]
  constructor
  · intro hlists
    exact ⟨⟨key, hlists⟩, h.key_mem key info hlists⟩
  · rintro ⟨⟨key', hlists⟩, hkey⟩
    exact h.spread key' info hlists key hkey

end Snapshot

end HostRegistry
