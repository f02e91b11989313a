import HostRegistry.Snapshot

/-!
# Changes as values

The ways in which the contents of a registry are changed, each as a value that can be applied.
-/

namespace HostRegistry

inductive Change
  | addContainerHost (id host : String)
  | removeContainerHost (id host : String)
  | addServerHost (id host : String)
  | removeServerHost (id host : String)
  | addInfo (info : ContainerInfo)
  | removeInfo (info : ContainerInfo)
  | register (info : ContainerInfo) (server host : String)
  | unregister (info : ContainerInfo) (server host : String)
deriving DecidableEq, Repr

namespace Change

def apply : Change → Snapshot → Snapshot
  | addContainerHost id host, s => s.addContainerHost id host
  | removeContainerHost id host, s => s.removeContainerHost id host
  | addServerHost id host, s => s.addServerHost id host
  | removeServerHost id host, s => s.removeServerHost id host
  | addInfo info, s => s.addInfo info
  | removeInfo info, s => s.removeInfo info
  | register info server host, s => s.register info server host
  | unregister info server host, s => s.unregister info server host

/-- Whether a removal finds what it is to remove. -/
def finds : Change → Snapshot → Bool
  | removeContainerHost id host, s => s.containerHosts.lists id host
  | removeServerHost id host, s => s.serverHosts.lists id host
  | removeInfo info, s => s.holdsInfo info
  | _, _ => true

end Change

end HostRegistry
