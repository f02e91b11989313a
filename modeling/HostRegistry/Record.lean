import HostRegistry.Snapshot

/-!
# The stored form of the registry

A record lists the hosts of every container and server id, and each info once as a row of plain
texts. A record describes a registry when its ids are not blank and not repeated and each row names
a container, an alias and a proper release; otherwise the first offending entry is the fault.
-/

namespace HostRegistry

structure HostEntry where
  id : String
  hosts : List String
deriving DecidableEq, Repr

structure InfoRow where
  containerId : String
  aliasName : String
  group : String
  artifact : String
  version : String
deriving DecidableEq, Repr

structure Record where
  containers : List HostEntry
  servers : List HostEntry
  infos : List InfoRow
deriving DecidableEq, Repr

namespace Record

inductive Kind
  | container
  | server
deriving DecidableEq, Repr

def Kind.name : Kind → String
  | .container => "container"
  | .server => "server"

/-- Why a record describes no registry. -/
inductive Invalid
  | blankId (kind : Kind)
  | duplicateId (kind : Kind) (id : String)
  | blankInfo (row : InfoRow)
  | release (containerId : String) (cause : Release.ReadError)
deriving DecidableEq, Repr

def Invalid.message : Invalid → String
  | .blankId kind => s!"{kind.name} entry with a blank id"
  | .duplicateId kind id => s!"duplicate {kind.name} entry '{id}'"
  | .blankInfo row =>
    s!"container info for release {row.group}:{row.artifact}:{row.version} has a blank id or alias"
  | .release containerId cause => s!"container info '{containerId}': {cause.message}"

def hostEntries (m : HostMap) : List HostEntry := m.entries.map fun (id, hosts) => ⟨id, hosts⟩

def rowOf (info : ContainerInfo) : InfoRow :=
  ⟨info.containerId, info.aliasName, info.release.group, info.release.artifact,
    info.release.version⟩

def ofSnapshot (s : Snapshot) : Record where
  containers := hostEntries s.containerHosts
  servers := hostEntries s.serverHosts
  infos := s.distinctInfos.toList.map rowOf

/-- Adds the entries to the map one by one. -/
def enterHosts (kind : Kind) : HostMap → List HostEntry → Except Invalid HostMap
  | m, [] => .ok m
  | m, entry :: rest =>
    if Text.isBlank entry.id then .error (.blankId kind)
    else if m.contains entry.id then .error (.duplicateId kind entry.id)
    else enterHosts kind (m.insert entry.id entry.hosts) rest

def infoOf (row : InfoRow) : Except Invalid ContainerInfo :=
  if Text.isBlank row.containerId || Text.isBlank row.aliasName then .error (.blankInfo row)
  else
    match Release.ofText (Release.text ⟨row.group, row.artifact, row.version⟩) with
    | .ok release => .ok ⟨row.containerId, row.aliasName, release⟩
    | .error cause => .error (.release row.containerId cause)

def enterInfos : Snapshot → List InfoRow → Except Invalid Snapshot
  | s, [] => .ok s
  | s, row :: rest =>
    match infoOf row with
    | .ok info => enterInfos (s.addInfo info) rest
    | .error invalid => .error invalid

def toSnapshot (r : Record) : Except Invalid Snapshot :=
  match enterHosts .container .empty r.containers with
  | .error invalid => .error invalid
  | .ok containerHosts =>
    match enterHosts .server .empty r.servers with
    | .error invalid => .error invalid
    | .ok serverHosts => enterInfos ⟨containerHosts, serverHosts, .empty⟩ r.infos

end Record

end HostRegistry
