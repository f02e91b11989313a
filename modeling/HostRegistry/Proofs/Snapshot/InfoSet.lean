import HostRegistry.Proofs.Snapshot.Built
import Mathlib.Data.Finset.Basic
import Mathlib.Data.Finset.Dedup

/-!
# The infos as a plain set

The index keeps every info under one or two keys. Seen from outside it is a plain set of infos:
registering inserts, deregistering erases, a record brings the infos of its rows, and nothing else
touches it. What a key lists is the part of this set that has the key among its keys.
-/

namespace HostRegistry

namespace Operation

/-- What an operation does to a plain set of infos. -/
def onInfos : Operation → Finset ContainerInfo → Finset ContainerInfo
  | change (.addInfo info), infos | change (.register info _ _), infos => insert info infos
  | change (.removeInfo info), infos | change (.unregister info _ _), infos => infos.erase info
  | load r, infos => if r.toSnapshot.isOk then (r.infos.map InfoRow.info).toFinset else infos
  | _, infos => infos

/-- The operation is about hosts alone. -/
def isAboutHosts : Operation → Bool
  | change (.addContainerHost _ _) | change (.removeContainerHost _ _)
  | change (.addServerHost _ _) | change (.removeServerHost _ _) | sweep _ => true
  | _ => false

end Operation

namespace Snapshot

open InfoIndex

/-- The distinct infos as a plain set. -/
def infoSet (s : Snapshot) : Finset ContainerInfo := s.distinctInfos.toList.toFinset

/-- What the operations make of a set that is empty at first. -/
def plainInfos (ops : List Operation) : Finset ContainerInfo :=
  ops.foldl (fun infos op => op.onInfos infos) ∅

variable {s : Snapshot} {info info' : ContainerInfo}

theorem mem_infoSet_iff : info ∈ s.infoSet ↔ ∃ key, Lists s.infoIndex key info := by
  rw [infoSet, List.mem_toFinset, mem_distinctInfos_iff]

theorem infoSet_congr {t : Snapshot} (h : s.infoIndex = t.infoIndex) : s.infoSet = t.infoSet := by
  ext info
  rw [mem_infoSet_iff, mem_infoSet_iff, h]

/-! ## One operation -/

theorem containerId_mem_keys (info : ContainerInfo) : info.containerId ∈ info.keys :=
  ContainerInfo.mem_keys_iff.2 (.inl rfl)

theorem infoSet_addInfo (s : Snapshot) (info : ContainerInfo) :
    (s.addInfo info).infoSet = insert info s.infoSet := by
  ext info'
  rw [Finset.mem_insert, mem_infoSet_iff, mem_infoSet_iff]
  constructor
  · rintro ⟨key, hlists⟩
    rcases lists_addInfo.1 hlists with ⟨-, heq⟩ | hlists
    · exact .inl heq
    · exact .inr ⟨key, hlists⟩
  · rintro (rfl | ⟨key, hlists⟩)
    · exact ⟨_, lists_addInfo.2 (.inl ⟨containerId_mem_keys info', rfl⟩)⟩
    · exact ⟨key, lists_addInfo.2 (.inr hlists)⟩

/-- Erasing from all keys of the info is enough, since a well-formed index has it nowhere else. -/
theorem infoSet_removeInfo (h : WellFormed s.infoIndex) (info : ContainerInfo) :
    (s.removeInfo info).infoSet = s.infoSet.erase info := by
  ext info'
  rw [Finset.mem_erase, mem_infoSet_iff, mem_infoSet_iff]
  constructor
  · rintro ⟨key, hlists⟩
    obtain ⟨hbefore, hne⟩ := lists_removeInfo.1 hlists
    have hkey : key ∈ info'.keys := h.key_mem key info' hbefore
    exact ⟨fun heq => hne ⟨heq ▸ hkey, heq⟩, key, hbefore⟩
  · rintro ⟨hne, key, hlists⟩
    exact ⟨key, lists_removeInfo.2 ⟨hlists, fun ⟨_, heq⟩ => hne heq⟩⟩

/-- The infos that a record brings are those of its rows. -/
theorem infoSet_of_toSnapshot {r : Record} (h : r.toSnapshot = .ok s) :
    s.infoSet = (r.infos.map InfoRow.info).toFinset := by
  obtain ⟨containerHosts, serverHosts, -, -, hinfos⟩ := Record.toSnapshot_eq_ok_iff.1 h
  obtain ⟨infos, hrows, -, rfl⟩ := Record.enterInfos_eq_ok_iff.1 hinfos
  have hmap : r.infos.map InfoRow.info = infos := by
    rw [hrows, List.map_map]
    exact List.map_id' infos
  ext info
  rw [hmap, List.mem_toFinset, mem_infoSet_iff]
  constructor
  · rintro ⟨key, hlists⟩
    exact (lists_foldl_addInfo.1 hlists).elim (·.1) fun h => (not_lists_empty key info h).elim
  · intro hmem
    exact ⟨_, lists_foldl_addInfo.2 (.inl ⟨hmem, containerId_mem_keys info⟩)⟩

theorem infoIndex_of_isAboutHosts (s : Snapshot) {op : Operation} (h : op.isAboutHosts = true) :
    (op.apply s).infoIndex = s.infoIndex := by
  cases op with
  | change c =>
    cases c with
    | addContainerHost | removeContainerHost | addServerHost | removeServerHost => rfl
    | addInfo | removeInfo | register | unregister => cases h
  | sweep url => exact infoIndex_sweep s url
  | load r => cases h

/-- Each operation does to the infos what it does to a plain set. -/
theorem infoSet_apply (h : WellFormed s.infoIndex) (op : Operation) :
    (op.apply s).infoSet = op.onInfos s.infoSet := by
  cases op with
  | change c =>
    cases c with
    | addContainerHost | removeContainerHost | addServerHost | removeServerHost => rfl
    | addInfo info | register info server host => exact infoSet_addInfo _ info
    | removeInfo info | unregister info server host => exact infoSet_removeInfo h info
  | sweep url => exact infoSet_congr (infoIndex_sweep s url)
  | load r =>
    rw [Operation.apply, Operation.onInfos]
    cases hr : r.toSnapshot with
    | ok contents => exact infoSet_of_toSnapshot hr
    | error cause => rfl

/-! ## Whole runs -/

theorem infoSet_after (h : WellFormed s.infoIndex) (ops : List Operation) :
    (s.after ops).infoSet = ops.foldl (fun infos op => op.onInfos infos) s.infoSet := by
  -- The index has to stay well-formed on the way, or an erased info could be left under some key.
  induction ops generalizing s with
  | nil => rfl
  | cons op rest ih =>
    have hstep := infoSet_apply h op
    rw [List.foldl_cons, ← hstep]
    exact ih (wellFormed_operation h op)

theorem infoSet_built (ops : List Operation) : (built ops).infoSet = plainInfos ops :=
  infoSet_after wellFormed_empty ops

/-- Where the index is well-formed, some key of an info holds it when it is in the set. -/
theorem holdsInfo_iff (h : WellFormed s.infoIndex) :
    s.holdsInfo info = true ↔ info ∈ s.infoSet := by
  rw [holdsInfo, List.any_eq_true, mem_infoSet_iff]
  simp only [List.contains_iff_mem, mem_infos_iff]
  constructor
  · rintro ⟨key, -, hlists⟩
    exact ⟨key, hlists⟩
  · rintro ⟨key, hlists⟩
    exact ⟨key, h.key_mem key info hlists, hlists⟩

/-- What is listed under a key comes out in ascending order. -/
theorem pairwise_infos (s : Snapshot) (key : String) :
    (s.infos key).Pairwise fun a b => compare a b = .lt := by
  rw [infos]
  cases s.infoIndex.get? key with
  | none => exact .nil
  | some infos =>
    have hasc : (SortedSet.toList infos).Pairwise fun a b => compare a b = .lt :=
      List.pairwise_map.2 infos.ascending
    exact hasc

theorem infos_ne_nil (h : WellFormed s.infoIndex) {key : String} (hkey : key ∈ s.infoIndex.keys) :
    s.infos key ≠ [] := by
  obtain ⟨infos, hget⟩ := SortedMap.mem_keys_iff.1 hkey
  rw [Snapshot.infos, hget]
  exact h.trimmed key infos hget

/-- Whatever operations built the contents, the index is the plain set that the same operations
build: each key lists, in ascending order and once, the infos of the set that have the key, and no
key lists nothing. Each further operation changes the set as it changes a plain one, those about
hosts leave the whole index alone, and a removal tells whether the info was in the set. -/
theorem infoIndex_refines_set (ops : List Operation) :
    (built ops).infoSet = plainInfos ops ∧
    (∀ key, ((built ops).infos key).Pairwise (fun a b => compare a b = .lt) ∧
      ∀ info, info ∈ (built ops).infos key ↔ info ∈ (built ops).infoSet ∧ key ∈ info.keys) ∧
    (∀ key ∈ (built ops).infoIndex.keys, (built ops).infos key ≠ []) ∧
    (∀ op : Operation, (op.apply (built ops)).infoSet = op.onInfos (built ops).infoSet ∧
      (op.isAboutHosts = true → (op.apply (built ops)).infoIndex = (built ops).infoIndex)) ∧
    ∀ info, (Change.removeInfo info).finds (built ops) = true ↔ info ∈ (built ops).infoSet := by
  have hindex := wellFormed_built ops
  refine ⟨infoSet_built ops, fun key => ⟨pairwise_infos _ key, fun info => ?_⟩,
    fun key hkey => infos_ne_nil hindex hkey,
    fun op => ⟨infoSet_apply hindex op, infoIndex_of_isAboutHosts _⟩,
    fun info => holdsInfo_iff hindex⟩
  rw [mem_infos_iff, lists_iff_mem_distinctInfos hindex, infoSet, List.mem_toFinset]

end Snapshot

end HostRegistry
