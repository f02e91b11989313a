import HostRegistry.Proofs.Snapshot.HostLists
import HostRegistry.Proofs.Snapshot.InfoIndex

/-!
# Entries of the registry

What a registry holds, one entry at a time: a host under a container id or alias, a host under a
server id, an info under a key. A registration makes the entries of its deployment and keeps all
others, a deregistration takes out no other entries than these, and a sweep none but those of its
host.
-/

namespace HostRegistry

/-- One entry of the contents of a registry. -/
inductive Entry
  | containerHost (key host : String)
  | serverHost (id host : String)
  | info (key : String) (info : ContainerInfo)
deriving DecidableEq, Repr

namespace Entry

def In : Entry → Snapshot → Prop
  | .containerHost key host, s => host ∈ s.hostsOfContainer key
  | .serverHost id host, s => host ∈ s.hostsOfServer id
  | .info key known, s => known ∈ s.infos key

instance (e : Entry) (s : Snapshot) : Decidable (e.In s) := by
  cases e <;> unfold In <;> infer_instance

def host? : Entry → Option String
  | .containerHost _ host | .serverHost _ host => some host
  | .info _ _ => none

/-- The entries that a registration makes. -/
def ofDeployment (info : ContainerInfo) (server host : String) : List Entry :=
  [.containerHost info.containerId host, .containerHost info.aliasName host,
    .serverHost server host, .info info.containerId info, .info info.aliasName info]

variable {e : Entry} {s : Snapshot} {info : ContainerInfo} {server host : String}

theorem containerHost_mem_ofDeployment {key host' : String} :
    containerHost key host' ∈ ofDeployment info server host ↔ key ∈ info.keys ∧ host' = host := by
  simp [ofDeployment, ContainerInfo.mem_keys_iff, or_and_right]

theorem serverHost_mem_ofDeployment {id host' : String} :
    serverHost id host' ∈ ofDeployment info server host ↔ id = server ∧ host' = host := by
  simp [ofDeployment]

theorem info_mem_ofDeployment {key : String} {info' : ContainerInfo} :
    Entry.info key info' ∈ ofDeployment info server host ↔ key ∈ info.keys ∧ info' = info := by
  simp [ofDeployment, ContainerInfo.mem_keys_iff, or_and_right]

/-- A registration makes its entries and takes none out. -/
theorem in_register_iff :
    e.In (s.register info server host) ↔ e ∈ ofDeployment info server host ∨ e.In s := by
  cases e with
  | containerHost key host' =>
    rw [containerHost_mem_ofDeployment]
    exact HostMap.mem_hosts_foldl_add
  | serverHost id host' =>
    rw [serverHost_mem_ofDeployment]
    exact HostMap.mem_hosts_add
  | info key info' =>
    rw [info_mem_ofDeployment, In, In, Snapshot.mem_infos_iff, Snapshot.mem_infos_iff]
    exact Snapshot.lists_addInfo

/-- A deregistration takes no other entries out than those of its deployment. -/
theorem in_unregister (h : e.In s) :
    e ∈ ofDeployment info server host ∨ e.In (s.unregister info server host) := by
  by_cases hother : e ∈ ofDeployment info server host
  · exact .inl hother
  right
  cases e with
  | containerHost key host' =>
    rw [containerHost_mem_ofDeployment] at hother
    exact HostMap.mem_hosts_foldl_remove h hother
  | serverHost id host' =>
    rw [serverHost_mem_ofDeployment] at hother
    exact HostMap.mem_hosts_remove h hother
  | info key info' =>
    rw [info_mem_ofDeployment] at hother
    rw [In, Snapshot.mem_infos_iff] at h ⊢
    exact Snapshot.lists_removeInfo.2 ⟨h, hother⟩

/-- A sweep takes no other entries out than those of the host that it finds. -/
theorem in_sweep (h : e.In s) (url : String) :
    (∃ host, s.hostOf? url = some host ∧ e.host? = some host) ∨ e.In (s.sweep url).2 := by
  rw [Snapshot.sweep]
  cases hfound : s.hostOf? url with
  | none => exact .inr h
  | some host =>
    by_cases hhost : e.host? = some host
    · exact .inl ⟨host, rfl, hhost⟩
    · right
      cases e with
      | containerHost key host' =>
        exact HostMap.mem_hosts_purge.2 ⟨h, fun heq => hhost (congrArg some heq)⟩
      | serverHost id host' =>
        exact HostMap.mem_hosts_purge.2 ⟨h, fun heq => hhost (congrArg some heq)⟩
      | info key info' => exact h

end Entry

end HostRegistry
