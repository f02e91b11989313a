import HostRegistry.Registry
import HostRegistry.Text.Quoted

/-!
# A registry as diagnostic text

One line that shows the whole contents of a registry and the number of its listeners.
-/

namespace HostRegistry.Describe

/-- A named value with its fields. -/
def fields (name : String) (members : List (String × String)) : String :=
  name ++ " \x7b " ++ ", ".intercalate (members.map fun (field, value) => field ++ ": " ++ value) ++
    " \x7d"

def list (items : List String) : String := "[" ++ ", ".intercalate items ++ "]"

def set (items : List String) : String := "\x7b" ++ ", ".intercalate items ++ "\x7d"

def map (entries : List (String × String)) : String :=
  set (entries.map fun (key, value) => Text.quoted key ++ ": " ++ value)

def release (r : Release) : String :=
  fields "ReleaseId" [("group_id", Text.quoted r.group), ("artifact_id", Text.quoted r.artifact),
    ("version", Text.quoted r.version)]

def info (i : ContainerInfo) : String :=
  fields "ContainerInfo" [("container_id", Text.quoted i.containerId),
    ("alias", Text.quoted i.aliasName), ("release_id", release i.release)]

def hosts (m : HostMap) : String :=
  map (m.entries.map fun (id, hosts) => (id, list (hosts.map Text.quoted)))

def snapshot (s : Snapshot) : String :=
  fields "RegistrySnapshot" [("hosts_per_container", hosts s.containerHosts),
    ("hosts_per_server", hosts s.serverHosts),
    ("container_infos_per_container",
      map (s.infoIndex.entries.map fun (key, infos) => (key, set (infos.toList.map info))))]

def registry {σ : Type} (r : Registry σ) : String :=
  fields "Configuration" [("snapshot", snapshot r.contents),
    ("listeners", toString r.listeners.length)]

end HostRegistry.Describe
