import HostRegistry.Proofs.Snapshot.Built

/-!
# Changes that keep contents loadable

Registering adds the keys of the info and the server id, so it keeps loadable contents loadable when
these say something. Deregistering and sweeping add no key and no info.
-/

namespace HostRegistry

namespace HostMap

theorem mem_keys_add {m : HostMap} {id host key : String} :
    key ∈ (m.add id host).keys ↔ key = id ∨ key ∈ m.keys := by
  rw [SortedMap.mem_keys_iff, SortedMap.mem_keys_iff, add]
  by_cases hkey : key = id
  · subst hkey
    rw [SortedMap.get?_alter_self]
    exact ⟨fun _ => .inl rfl, fun _ => ⟨_, rfl⟩⟩
  · rw [SortedMap.get?_alter_of_ne m _ hkey]
    exact (or_iff_right hkey).symm

theorem mem_keys_remove {m : HostMap} {id host key : String} :
    key ∈ (m.remove id host).keys ↔ key ∈ m.keys := by
  rw [SortedMap.mem_keys_iff, SortedMap.mem_keys_iff, remove]
  by_cases hkey : key = id
  · subst hkey
    rw [SortedMap.get?_alter_self]
    cases m.get? key <;> simp
  · rw [SortedMap.get?_alter_of_ne m _ hkey]

theorem mem_keys_purge {m : HostMap} {host key : String} :
    key ∈ (m.purge host).keys ↔ key ∈ m.keys := by
  rw [purge, SortedMap.keys_mapValues]

theorem mem_keys_foldl_add {m : HostMap} {ids : List String} {host key : String} :
    key ∈ (ids.foldl (·.add · host) m).keys ↔ key ∈ ids ∨ key ∈ m.keys := by
  induction ids generalizing m with
  | nil => simp
  | cons id rest ih => rw [List.foldl_cons, ih, mem_keys_add, List.mem_cons, or_left_comm, or_assoc]

theorem mem_keys_foldl_remove {m : HostMap} {ids : List String} {host key : String} :
    key ∈ (ids.foldl (·.remove · host) m).keys ↔ key ∈ m.keys := by
  induction ids generalizing m with
  | nil => simp
  | cons id rest ih => rw [List.foldl_cons, ih, mem_keys_remove]

end HostMap

theorem ContainerInfo.Loadable.not_blank {info : ContainerInfo} (h : info.Loadable)
    {key : String} (hkey : key ∈ info.keys) : Text.isBlank key = false := by
  rcases ContainerInfo.mem_keys_iff.1 hkey with rfl | rfl
  · exact h.1
  · exact h.2.1

namespace Snapshot

theorem loadable_iff {s : Snapshot} :
    s.Loadable ↔ (∀ id, id ∈ s.containerHosts.keys ∨ id ∈ s.serverHosts.keys →
        Text.isBlank id = false) ∧
      ∀ key info, InfoIndex.Lists s.infoIndex key info → info.Loadable := by
  simp only [Loadable, List.mem_append, mem_distinctInfos_iff, forall_exists_index]
  exact and_congr_right fun _ => forall_comm

theorem loadable_empty : empty.Loadable := by decide

theorem loadable_register {s : Snapshot} (h : s.Loadable) {info : ContainerInfo}
    (hinfo : info.Loadable) {server : String} (hserver : Text.isBlank server = false)
    (host : String) : (s.register info server host).Loadable := by
  rw [loadable_iff] at h ⊢
  refine ⟨fun id hid => ?_, fun key info' hlists => ?_⟩
  · rw [register] at hid
    rcases hid with hid | hid
    · rcases HostMap.mem_keys_foldl_add.1 hid with hkey | hid
      · exact hinfo.not_blank hkey
      · exact h.1 id (.inl hid)
    · rcases HostMap.mem_keys_add.1 hid with rfl | hid
      · exact hserver
      · exact h.1 id (.inr hid)
  · rcases lists_addInfo.1 hlists with ⟨-, rfl⟩ | hlists
    · exact hinfo
    · exact h.2 key info' hlists

theorem loadable_unregister {s : Snapshot} (h : s.Loadable) (info : ContainerInfo)
    (server host : String) : (s.unregister info server host).Loadable := by
  rw [loadable_iff] at h ⊢
  refine ⟨fun id hid => ?_, fun key info' hlists => h.2 key info' (lists_removeInfo.1 hlists).1⟩
  rw [unregister] at hid
  exact h.1 id (hid.imp HostMap.mem_keys_foldl_remove.1 HostMap.mem_keys_remove.1)

theorem loadable_sweep {s : Snapshot} (h : s.Loadable) (url : String) :
    (s.sweep url).2.Loadable := by
  rw [loadable_iff] at h ⊢
  rw [infoIndex_sweep]
  refine ⟨fun id hid => h.1 id ?_, h.2⟩
  rw [sweep] at hid
  split at hid
  · exact hid
  · exact hid.imp HostMap.mem_keys_purge.1 HostMap.mem_keys_purge.1

end Snapshot

end HostRegistry
