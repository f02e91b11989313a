import HostRegistry.Snapshot
import HostRegistry.SortedMap.Lookup
import Mathlib.Data.List.Count

/-!
# The hosts of one id

What an addition, a removal and a sweep do to the hosts that an id lists. An addition puts its host
behind those of its id, a removal takes the first listing of its host out of those of its id, and
neither touches another id. From this follow the laws on what is listed, and how often.
-/

namespace HostRegistry.HostMap

variable {m : HostMap} {ids : List String} {id id' host host' : String}

/-! ## Lists -/

theorem hosts_add_self (m : HostMap) (id host : String) :
    (m.add id host).hosts id = m.hosts id ++ [host] := by
  rw [hosts, hosts, add, SortedMap.get?_alter_self]
  rfl

theorem hosts_add_of_ne (m : HostMap) (host : String) (h : id' ≠ id) :
    (m.add id host).hosts id' = m.hosts id' := by
  rw [hosts, hosts, add, SortedMap.get?_alter_of_ne m _ h]

theorem hosts_remove_self (m : HostMap) (id host : String) :
    (m.remove id host).hosts id = (m.hosts id).erase host := by
  rw [hosts, hosts, remove, SortedMap.get?_alter_self]
  cases m.get? id <;> rfl

theorem hosts_remove_of_ne (m : HostMap) (host : String) (h : id' ≠ id) :
    (m.remove id host).hosts id' = m.hosts id' := by
  rw [hosts, hosts, remove, SortedMap.get?_alter_of_ne m _ h]

theorem hosts_purge (m : HostMap) (host id : String) :
    (m.purge host).hosts id = (m.hosts id).filter (· ≠ host) := by
  rw [hosts, hosts, purge, SortedMap.get?_mapValues]
  cases m.get? id <;> rfl

/-! ## What is listed -/

theorem mem_hosts_add :
    host' ∈ (m.add id host).hosts id' ↔ id' = id ∧ host' = host ∨ host' ∈ m.hosts id' := by
  by_cases hid : id' = id
  · subst hid
    simp [hosts_add_self, or_comm]
  · simp [hosts_add_of_ne m host hid, hid]

theorem mem_hosts_foldl_add :
    host' ∈ (ids.foldl (·.add · host) m).hosts id ↔
      id ∈ ids ∧ host' = host ∨ host' ∈ m.hosts id := by
  induction ids generalizing m with
  | nil => simp
  | cons first rest ih =>
    rw [List.foldl_cons, ih, mem_hosts_add, List.mem_cons, or_and_right, ← or_assoc,
      or_comm (a := id ∈ rest ∧ host' = host)]

/-- A removal leaves the other hosts of its id, and all hosts of other ids. -/
theorem mem_hosts_remove (h : host' ∈ m.hosts id') (hother : ¬(id' = id ∧ host' = host)) :
    host' ∈ (m.remove id host).hosts id' := by
  by_cases hid : id' = id
  · subst hid
    have hhost : host' ≠ host := fun heq => hother ⟨rfl, heq⟩
    rw [hosts_remove_self]
    exact (List.mem_erase_of_ne hhost).2 h
  · rw [hosts_remove_of_ne m host hid]
    exact h

theorem mem_hosts_foldl_remove (h : host' ∈ m.hosts id) (hother : ¬(id ∈ ids ∧ host' = host)) :
    host' ∈ (ids.foldl (·.remove · host) m).hosts id := by
  induction ids generalizing m with
  | nil => exact h
  | cons first rest ih =>
    refine ih (mem_hosts_remove h ?_) ?_
    · rintro ⟨rfl, hhost⟩
      exact hother ⟨List.mem_cons_self, hhost⟩
    · rintro ⟨hmem, hhost⟩
      exact hother ⟨List.mem_cons_of_mem _ hmem, hhost⟩

theorem mem_hosts_purge :
    host' ∈ (m.purge host).hosts id ↔ host' ∈ m.hosts id ∧ host' ≠ host := by
  rw [hosts_purge, List.mem_filter, decide_eq_true_eq]

/-! ## How often it is listed -/

theorem count_hosts_add :
    ((m.add id host).hosts id').count host' =
      (m.hosts id').count host' + if id' = id ∧ host' = host then 1 else 0 := by
  by_cases hid : id' = id
  · subst hid
    rw [hosts_add_self, List.count_append, List.count_singleton]
    simp only [beq_iff_eq, true_and, eq_comm (a := host')]
  · simp [hosts_add_of_ne m host hid, hid]

theorem count_hosts_remove :
    ((m.remove id host).hosts id').count host' =
      (m.hosts id').count host' - if id' = id ∧ host' = host then 1 else 0 := by
  by_cases hid : id' = id
  · subst hid
    rw [hosts_remove_self, List.count_erase]
    simp only [beq_iff_eq, true_and, eq_comm (a := host')]
  · simp [hosts_remove_of_ne m host hid, hid]

/-- Of distinct ids, each is given the host once. -/
theorem count_hosts_foldl_add (hnodup : ids.Nodup) :
    ((ids.foldl (·.add · host) m).hosts id).count host' =
      (m.hosts id).count host' + if id ∈ ids ∧ host' = host then 1 else 0 := by
  induction ids generalizing m with
  | nil => simp
  | cons first rest ih =>
    obtain ⟨hfirst, hrest⟩ := List.nodup_cons.1 hnodup
    rw [List.foldl_cons, ih hrest, count_hosts_add]
    by_cases hid : id = first
    · subst hid
      simp [hfirst]
    · simp [hid]

/-- Of distinct ids, each loses one listing of the host. -/
theorem count_hosts_foldl_remove (hnodup : ids.Nodup) :
    ((ids.foldl (·.remove · host) m).hosts id).count host' =
      (m.hosts id).count host' - if id ∈ ids ∧ host' = host then 1 else 0 := by
  induction ids generalizing m with
  | nil => simp
  | cons first rest ih =>
    obtain ⟨hfirst, hrest⟩ := List.nodup_cons.1 hnodup
    rw [List.foldl_cons, ih hrest, count_hosts_remove]
    by_cases hid : id = first
    · subst hid
      simp [hfirst]
    · simp [hid]

end HostRegistry.HostMap
