import HostRegistry.Json.Struct
import HostRegistry.Json.Value
import HostRegistry.Record

/-!
# The registry in JSON

The member names and member order of records, infos and snapshots, for writing and for reading. A
record is stored laid out, one member a line, with a line end behind it; infos and snapshots are
written without blanks.
-/

namespace HostRegistry

open Json

/-! ## Fields -/

/-- The value of a field that must be given. -/
def Json.required {α : Type} (name : String) (given : Option α) : Except String α :=
  match given with
  | some a => .ok a
  | none => .error name

/-- Reads a release from its text. -/
def Json.readRelease : Reader Release := fun input => do
  let (s, rest) ← readText input
  match Release.ofText s with
  | .ok release => pure (release, rest)
  | .error cause => .error (.shape [] (.rejected cause.message))

/-- A reader of the value that a field is then set to. -/
def Json.setting {α ρ : Type} (value : Reader α) (set : ρ → α → ρ) : Reader (ρ → ρ) := fun s => do
  let (a, rest) ← value s
  pure (fun given => set given a, rest)

namespace HostEntry

structure Given where
  id : Option String
  hosts : Option (List String)

def struct : Struct Given HostEntry where
  name := "HostEntry"
  fields := [
    ⟨"id", (·.id.isSome), setting readText fun g a => { g with id := some a }⟩,
    ⟨"hosts", (·.hosts.isSome), setting (readList readText) fun g a => { g with hosts := some a }⟩]
  start := ⟨none, none⟩
  finish g := do pure ⟨← required "id" g.id, g.hosts.getD []⟩

def toJson (e : HostEntry) : Value :=
  .object [("id", .text e.id), ("hosts", texts e.hosts)]

end HostEntry

namespace InfoRow

structure Given where
  containerId : Option String
  aliasName : Option String
  group : Option String
  artifact : Option String
  version : Option String

def struct : Struct Given InfoRow where
  name := "ContainerInfoRow"
  fields := [
    ⟨"containerId", (·.containerId.isSome),
      setting readText fun g a => { g with containerId := some a }⟩,
    ⟨"alias", (·.aliasName.isSome), setting readText fun g a => { g with aliasName := some a }⟩,
    ⟨"groupId", (·.group.isSome), setting readText fun g a => { g with group := some a }⟩,
    ⟨"artifactId", (·.artifact.isSome), setting readText fun g a => { g with artifact := some a }⟩,
    ⟨"version", (·.version.isSome), setting readText fun g a => { g with version := some a }⟩]
  start := ⟨none, none, none, none, none⟩
  finish g := do
    pure ⟨← required "containerId" g.containerId, ← required "alias" g.aliasName,
      ← required "groupId" g.group, ← required "artifactId" g.artifact,
      ← required "version" g.version⟩

def toJson (r : InfoRow) : Value :=
  .object [("containerId", .text r.containerId), ("alias", .text r.aliasName),
    ("groupId", .text r.group),
    ("artifactId", .text r.artifact), ("version", .text r.version)]

end InfoRow

namespace Record

structure Given where
  containers : Option (List HostEntry)
  servers : Option (List HostEntry)
  infos : Option (List InfoRow)

def struct : Struct Given Record where
  name := "RepositoryRecord"
  fields := [
    ⟨"containers", (·.containers.isSome),
      setting (readList HostEntry.struct.read) fun g a => { g with containers := some a }⟩,
    ⟨"servers", (·.servers.isSome),
      setting (readList HostEntry.struct.read) fun g a => { g with servers := some a }⟩,
    ⟨"containerInfo", (·.infos.isSome),
      setting (readList InfoRow.struct.read) fun g a => { g with infos := some a }⟩]
  start := ⟨none, none, none⟩
  finish g := .ok ⟨g.containers.getD [], g.servers.getD [], g.infos.getD []⟩

def toJson (r : Record) : Value :=
  .object [("containers", .list (r.containers.map HostEntry.toJson)),
    ("servers", .list (r.servers.map HostEntry.toJson)),
    ("containerInfo", .list (r.infos.map InfoRow.toJson))]

def ofBytes (bytes : Bytes) : Except Fault Record := readWhole struct.read bytes

/-- The contents of a file that stores the record. -/
def toBytes (r : Record) : Bytes := pretty 0 r.toJson ++ [0x0A]

end Record

namespace ContainerInfo

structure Given where
  containerId : Option String
  aliasName : Option String
  release : Option Release

def struct : Struct Given ContainerInfo where
  name := "ContainerInfo"
  fields := [
    ⟨"containerId", (·.containerId.isSome),
      setting readText fun g a => { g with containerId := some a }⟩,
    ⟨"alias", (·.aliasName.isSome), setting readText fun g a => { g with aliasName := some a }⟩,
    ⟨"releaseId", (·.release.isSome), setting readRelease fun g a => { g with release := some a }⟩]
  start := ⟨none, none, none⟩
  finish g := do
    pure ⟨← required "containerId" g.containerId, ← required "alias" g.aliasName,
      ← required "releaseId" g.release⟩

def toJson (info : ContainerInfo) : Value :=
  .object [("containerId", .text info.containerId), ("alias", .text info.aliasName),
    ("releaseId", .text info.release.text)]

def ofBytes (bytes : Bytes) : Except Fault ContainerInfo := readWhole struct.read bytes

end ContainerInfo

namespace Snapshot

def hostsToJson (m : HostMap) : Value :=
  .object (m.entries.map fun (id, hosts) => (id, texts hosts))

def infosToJson (infos : List ContainerInfo) : Value := .list (infos.map ContainerInfo.toJson)

def toJson (s : Snapshot) : Value :=
  .object [("hostsPerContainer", hostsToJson s.containerHosts),
    ("hostsPerServer", hostsToJson s.serverHosts),
    ("containerInfosPerContainer",
      .object (s.infoIndex.entries.map fun (key, infos) => (key, infosToJson infos.toList)))]

end Snapshot

end HostRegistry
