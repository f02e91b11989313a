import HostRegistry.Proofs.Snapshot.HostLists
import HostRegistry.Proofs.Snapshot.HostLog

/-!
# Adding a host and removing it again

An addition goes to the end of a list, a removal takes the first listing of its host. So a host that
is added and removed again leaves the list as it was if it was not listed before. Otherwise its
first listing has moved to the end, which is seen exactly when another host stood behind it.
-/

namespace HostRegistry

open Record (Kind)

/-- The list with the first listing of the host, if there is one, moved to its end. -/
def movedToEnd (host : String) (hosts : List String) : List String :=
  if host ∈ hosts then hosts.erase host ++ [host] else hosts

/-- Behind the first listing of the host no other host is listed. -/
def StandsLast (host : String) (hosts : List String) : Prop :=
  ∀ other ∈ hosts.dropWhile (· ≠ host), other = host

instance (host : String) (hosts : List String) : Decidable (StandsLast host hosts) :=
  inferInstanceAs (Decidable (∀ other ∈ hosts.dropWhile (· ≠ host), other = host))

/-- The contents after the host was added under the id and removed from it again. -/
def Snapshot.addedAndRemoved (s : Snapshot) : Kind → String → String → Snapshot
  | .container, id, host => (s.addContainerHost id host).removeContainerHost id host
  | .server, id, host => (s.addServerHost id host).removeServerHost id host

/-! ## Lists -/

section Lists

variable {host : String} {hosts : List String}

theorem erase_concat (host : String) (hosts : List String) :
    (hosts ++ [host]).erase host = movedToEnd host hosts := by
  rw [List.erase_append, movedToEnd]
  simp

theorem movedToEnd_perm (host : String) (hosts : List String) :
    (movedToEnd host hosts).Perm hosts := by
  have hperm : (hosts ++ [host]).Perm (host :: hosts) := List.perm_append_singleton host hosts
  have herase := hperm.erase host
  rwa [erase_concat, List.erase_cons_head] at herase

/-- Moving the first entry to the end changes nothing exactly when all entries are the same. -/
theorem concat_eq_cons_iff : hosts ++ [host] = host :: hosts ↔ ∀ other ∈ hosts, other = host := by
  induction hosts with
  | nil => simp
  | cons first rest ih =>
    rw [List.cons_append, List.cons.injEq, List.forall_mem_cons]
    constructor
    · rintro ⟨rfl, htail⟩
      exact ⟨rfl, ih.1 htail⟩
    · rintro ⟨rfl, hrest⟩
      exact ⟨rfl, ih.2 hrest⟩

theorem movedToEnd_eq_self_iff : movedToEnd host hosts = hosts ↔ StandsLast host hosts := by
  rw [← erase_concat]
  induction hosts with
  | nil => simp [StandsLast]
  | cons first rest ih =>
    by_cases hfirst : first = host
    · subst hfirst
      rw [List.cons_append, List.erase_cons_head, concat_eq_cons_iff, StandsLast,
        List.dropWhile_cons_of_neg (by simp), List.forall_mem_cons]
      exact (and_iff_right rfl).symm
    · rw [List.cons_append, List.erase_cons_tail (by simpa using hfirst), List.cons.injEq, ih,
        StandsLast, StandsLast, List.dropWhile_cons_of_pos (by simpa using hfirst)]
      exact and_iff_right rfl

/-- What stands before the first listing does not matter, and a second listing behind it is no other
host. -/
example : StandsLast "b" ["a", "b", "b"] ∧ movedToEnd "b" ["a", "b", "b"] = ["a", "b", "b"] ∧
    ¬StandsLast "b" ["b", "a", "b"] ∧ movedToEnd "b" ["b", "a", "b"] = ["a", "b", "b"] := by decide

end Lists

/-! ## Contents -/

namespace HostMap

theorem hosts_remove_add_self (m : HostMap) (id host : String) :
    ((m.add id host).remove id host).hosts id = movedToEnd host (m.hosts id) := by
  rw [hosts_remove_self, hosts_add_self, erase_concat]

theorem hosts_remove_add_of_ne (m : HostMap) {id id' : String} (host : String) (h : id' ≠ id) :
    ((m.add id host).remove id host).hosts id' = m.hosts id' := by
  rw [hosts_remove_of_ne _ host h, hosts_add_of_ne _ host h]

end HostMap

namespace Snapshot

variable {s : Snapshot} {kind kind' : Kind} {id id' host : String}

theorem hosts_addedAndRemoved_self (s : Snapshot) (kind : Kind) (id host : String) :
    ((s.addedAndRemoved kind id host).hostMap kind).hosts id =
      movedToEnd host ((s.hostMap kind).hosts id) := by
  cases kind <;> exact HostMap.hosts_remove_add_self _ id host

theorem hostMap_addedAndRemoved_of_ne (s : Snapshot) (id host : String) (h : kind' ≠ kind) :
    (s.addedAndRemoved kind id host).hostMap kind' = s.hostMap kind' := by
  cases kind with
  | container =>
    cases kind' with
    | container => exact (h rfl).elim
    | server => rfl
  | server =>
    cases kind' with
    | container => rfl
    | server => exact (h rfl).elim

theorem hosts_addedAndRemoved_of_ne (h : ¬(kind' = kind ∧ id' = id)) :
    ((s.addedAndRemoved kind id host).hostMap kind').hosts id' = (s.hostMap kind').hosts id' := by
  by_cases hkind : kind' = kind
  · have hid : id' ≠ id := fun heq => h ⟨hkind, heq⟩
    subst hkind
    cases kind' <;> exact HostMap.hosts_remove_add_of_ne _ host hid
  · rw [hostMap_addedAndRemoved_of_ne s id host hkind]

theorem infoIndex_addedAndRemoved (s : Snapshot) (kind : Kind) (id host : String) :
    (s.addedAndRemoved kind id host).infoIndex = s.infoIndex := by
  cases kind <;> rfl

/-- A host that is added under an id and removed again leaves the id with the hosts it had, the
first listing of this host, if there was one, at the end. So the list is as it was exactly when no
other host stood behind that listing. Nothing else is changed. -/
theorem addedAndRemoved_moves_to_end (s : Snapshot) (kind : Kind) (id host : String) :
    ((s.addedAndRemoved kind id host).hostMap kind).hosts id =
        movedToEnd host ((s.hostMap kind).hosts id) ∧
    (((s.addedAndRemoved kind id host).hostMap kind).hosts id).Perm
        ((s.hostMap kind).hosts id) ∧
    (((s.addedAndRemoved kind id host).hostMap kind).hosts id = (s.hostMap kind).hosts id ↔
        StandsLast host ((s.hostMap kind).hosts id)) ∧
    (∀ kind' id', ¬(kind' = kind ∧ id' = id) →
      ((s.addedAndRemoved kind id host).hostMap kind').hosts id' = (s.hostMap kind').hosts id') ∧
    (s.addedAndRemoved kind id host).infoIndex = s.infoIndex := by
  rw [hosts_addedAndRemoved_self]
  refine ⟨rfl, movedToEnd_perm _ _, movedToEnd_eq_self_iff, ?_, infoIndex_addedAndRemoved ..⟩
  exact fun kind' id' => hosts_addedAndRemoved_of_ne

/-- One container at two hosts. -/
def twoHosts : Snapshot :=
  (empty.addContainerHost "c" "http://1").addContainerHost "c" "http://2"

/-- The host that stood first stands last after it was added once more and removed once. -/
theorem hosts_twoHosts_not_restored :
    twoHosts.hostsOfContainer "c" = ["http://1", "http://2"] ∧
      ((twoHosts.addContainerHost "c" "http://1").removeContainerHost "c"
        "http://1").hostsOfContainer "c" = ["http://2", "http://1"] := by
  decide

end Snapshot

end HostRegistry
