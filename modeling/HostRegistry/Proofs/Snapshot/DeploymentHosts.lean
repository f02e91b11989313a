import HostRegistry.Proofs.Snapshot.Deployments
import HostRegistry.Proofs.Snapshot.HostLists

/-!
# Hosts of standing deployments

A host is listed under a key once for every standing deployment at this host whose info has the key,
and under a server once for every one on this server. Infos share aliases, and the alias of one may
be the id of another, so taking a deployment away may take out a listing that another one made; the
number of listings left is right all the same. So a key lists no host exactly when no deployment
under it stands.
-/

namespace HostRegistry

theorem ContainerInfo.nodup_keys (info : ContainerInfo) : info.keys.Nodup := by
  rw [keys]
  split
  next => simp
  next hne => simp [Ne.symm hne]

namespace Snapshot

variable {s : Snapshot} {info : ContainerInfo} {key server host server' host' : String}

theorem count_hostsOfContainer_register :
    ((s.register info server host).hostsOfContainer key).count host' =
      (s.hostsOfContainer key).count host' + if key ∈ info.keys ∧ host' = host then 1 else 0 :=
  HostMap.count_hosts_foldl_add info.nodup_keys

theorem count_hostsOfContainer_unregister :
    ((s.unregister info server host).hostsOfContainer key).count host' =
      (s.hostsOfContainer key).count host' - if key ∈ info.keys ∧ host' = host then 1 else 0 :=
  HostMap.count_hosts_foldl_remove info.nodup_keys

theorem count_hostsOfServer_register :
    ((s.register info server host).hostsOfServer server').count host' =
      (s.hostsOfServer server').count host' + if server' = server ∧ host' = host then 1 else 0 :=
  HostMap.count_hosts_add

theorem count_hostsOfServer_unregister :
    ((s.unregister info server host).hostsOfServer server').count host' =
      (s.hostsOfServer server').count host' - if server' = server ∧ host' = host then 1 else 0 :=
  HostMap.count_hosts_remove

end Snapshot

namespace Deployment

variable {steps : List Step}

/-! ## Counting deployments -/

theorem countP_standing_register (p : Deployment → Prop) [DecidablePred p] (d : Deployment) :
    (standing (steps ++ [.register d])).countP p =
      (standing steps).countP p + if p d then 1 else 0 := by
  rw [standing_concat, Step.adjust, List.countP_cons]
  simp only [decide_eq_true_eq]

theorem countP_standing_unregister (p : Deployment → Prop) [DecidablePred p] {d : Deployment}
    (stands : d ∈ standing steps) :
    (standing (steps ++ [.unregister d])).countP p =
      (standing steps).countP p - if p d then 1 else 0 := by
  rw [standing_concat, Step.adjust, List.countP_erase]
  simp only [stands, true_and, decide_eq_true_eq]

/-! ## Counting listings -/

theorem count_hostsOfContainer (h : Run steps) (key host : String) :
    ((contents steps).hostsOfContainer key).count host =
      (standing steps).countP fun d => key ∈ d.info.keys ∧ host = d.host := by
  induction h with
  | start => rfl
  | @register steps d h ih =>
    rw [countP_standing_register, ← ih, contents_concat]
    exact Snapshot.count_hostsOfContainer_register
  | @unregister steps d h stands ih =>
    rw [countP_standing_unregister _ stands, ← ih, contents_concat]
    exact Snapshot.count_hostsOfContainer_unregister

theorem count_hostsOfServer (h : Run steps) (server host : String) :
    ((contents steps).hostsOfServer server).count host =
      (standing steps).countP fun d => server = d.server ∧ host = d.host := by
  induction h with
  | start => rfl
  | @register steps d h ih =>
    rw [countP_standing_register, ← ih, contents_concat]
    exact Snapshot.count_hostsOfServer_register
  | @unregister steps d h stands ih =>
    rw [countP_standing_unregister _ stands, ← ih, contents_concat]
    exact Snapshot.count_hostsOfServer_unregister

theorem mem_hostsOfContainer_iff (h : Run steps) {key host : String} :
    host ∈ (contents steps).hostsOfContainer key ↔
      ∃ d ∈ standing steps, key ∈ d.info.keys ∧ host = d.host := by
  rw [← List.count_pos_iff, count_hostsOfContainer h, List.countP_pos_iff]
  simp only [decide_eq_true_eq]

theorem hostsOfContainer_eq_nil_iff (h : Run steps) {key : String} :
    (contents steps).hostsOfContainer key = [] ↔ ∀ d ∈ standing steps, key ∉ d.info.keys := by
  rw [List.eq_nil_iff_forall_not_mem]
  simp only [mem_hostsOfContainer_iff h]
  constructor
  · intro hnone d hd hkey
    exact hnone d.host ⟨d, hd, hkey, rfl⟩
  · rintro hnone host ⟨d, hd, hkey, -⟩
    exact hnone d hd hkey

/-- Every host is listed once for each standing deployment: under a key once for each at this host
whose info has the key, under a server once for each at this host on the server. A key lists no host
exactly when no deployment whose info has the key stands. -/
theorem listings_eq_standing (h : Run steps) :
    (∀ key host, ((contents steps).hostsOfContainer key).count host =
      (standing steps).countP fun d => key ∈ d.info.keys ∧ host = d.host) ∧
    (∀ server host, ((contents steps).hostsOfServer server).count host =
      (standing steps).countP fun d => server = d.server ∧ host = d.host) ∧
    ∀ key, (contents steps).hostsOfContainer key = [] ↔
      ∀ d ∈ standing steps, key ∉ d.info.keys :=
  ⟨count_hostsOfContainer h, count_hostsOfServer h, fun _ => hostsOfContainer_eq_nil_iff h⟩

/-- Containers under names that they share: the alias of the first is the id and the alias of the
second, and its id is the alias of the third. The second is taken away. -/
def sharedNames : List Step :=
  [.register ⟨⟨"c", "a", ⟨"g", "a", "v"⟩⟩, "s1", "http://h"⟩,
    .register ⟨⟨"a", "a", ⟨"g", "a", "w"⟩⟩, "s2", "http://h"⟩,
    .register ⟨⟨"d", "c", ⟨"g", "c", "v"⟩⟩, "s1", "http://h"⟩,
    .unregister ⟨⟨"a", "a", ⟨"g", "a", "w"⟩⟩, "s2", "http://h"⟩]

theorem listings_sharedNames :
    Run sharedNames ∧ ((contents sharedNames).hostsOfContainer "a").count "http://h" = 1 ∧
      ((contents sharedNames).hostsOfContainer "c").count "http://h" = 2 ∧
      ((contents sharedNames).hostsOfServer "s2").count "http://h" = 0 := by
  have hrun : Run sharedNames :=
    .unregister _ (.register _ (.register _ (.register _ .start))) (by decide)
  obtain ⟨hcontainer, hserver, -⟩ := listings_eq_standing hrun
  rw [hcontainer, hcontainer, hserver]
  exact ⟨hrun, by decide, by decide, by decide⟩

end Deployment

end HostRegistry
