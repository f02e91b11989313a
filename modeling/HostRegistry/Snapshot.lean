import HostRegistry.ContainerInfo
import HostRegistry.SortedMap

/-!
# The contents of the registry

A snapshot lists the hosts of each container id or alias and of each server id, and finds the
container infos of a key. Hosts are listed in the order in which they were added, once for every
addition; an id whose last host went stays known. Infos form sets, and a key without infos is
forgotten.
-/

namespace HostRegistry

abbrev HostMap := SortedMap String (List String)

namespace HostMap

def hosts (m : HostMap) (id : String) : List String := (m.get? id).getD []

def add (m : HostMap) (id host : String) : HostMap :=
  m.alter id fun hosts => some (hosts.getD [] ++ [host])

/-- Whether the host is listed under the id. -/
def lists (m : HostMap) (id host : String) : Bool := (m.hosts id).contains host

/-- Takes the first listing of the host under the id away. -/
def remove (m : HostMap) (id host : String) : HostMap :=
  m.alter id fun hosts => hosts.map (·.erase host)

/-- Takes every listing of the host away. -/
def purge (m : HostMap) (host : String) : HostMap :=
  m.mapValues fun hosts => hosts.filter (· ≠ host)

/-- All listed hosts, by ascending id. -/
def allHosts (m : HostMap) : List String := m.values.flatten

end HostMap

abbrev InfoIndex := SortedMap String (SortedSet ContainerInfo)

structure Snapshot where
  containerHosts : HostMap
  serverHosts : HostMap
  infoIndex : InfoIndex
deriving DecidableEq

namespace Snapshot

def empty : Snapshot := ⟨.empty, .empty, .empty⟩

instance : Inhabited Snapshot := ⟨empty⟩

/-! ## Queries -/

def hostsOfContainer (s : Snapshot) (id : String) : List String := s.containerHosts.hosts id

def hostsOfServer (s : Snapshot) (id : String) : List String := s.serverHosts.hosts id

/-- The infos under a container id or alias. -/
def infos (s : Snapshot) (key : String) : List ContainerInfo :=
  ((s.infoIndex.get? key).map SortedSet.toList).getD []

/-- Every info, however many keys it is under. -/
def distinctInfos (s : Snapshot) : SortedSet ContainerInfo :=
  SortedSet.ofList (s.infoIndex.values.flatMap SortedSet.toList)

/-- All listed hosts, the containers' before the servers'. -/
def allHosts (s : Snapshot) : List String := s.containerHosts.allHosts ++ s.serverHosts.allHosts

def hostCount (s : Snapshot) : Nat := s.allHosts.length

/-- The first listed host that the url lies under, that is, that the url begins with. -/
def hostOf? (s : Snapshot) (url : String) : Option String :=
  s.allHosts.find? fun host => host ≠ "" && host.toList.isPrefixOf url.toList

/-! ## Changes -/

def addContainerHost (s : Snapshot) (id host : String) : Snapshot :=
  { s with containerHosts := s.containerHosts.add id host }

def removeContainerHost (s : Snapshot) (id host : String) : Snapshot :=
  { s with containerHosts := s.containerHosts.remove id host }

def addServerHost (s : Snapshot) (id host : String) : Snapshot :=
  { s with serverHosts := s.serverHosts.add id host }

def removeServerHost (s : Snapshot) (id host : String) : Snapshot :=
  { s with serverHosts := s.serverHosts.remove id host }

/-- Enters the info under one key. -/
def indexInfo (index : InfoIndex) (info : ContainerInfo) (key : String) : InfoIndex :=
  index.alter key fun infos => some ((infos.getD .empty).add info)

/-- Removes the info from one key, and the key if that was its last info. -/
def unindexInfo (index : InfoIndex) (info : ContainerInfo) (key : String) : InfoIndex :=
  index.alter key fun infos =>
    infos.bind fun infos =>
      let left := infos.remove info
      if left.isEmpty then none else some left

def addInfo (s : Snapshot) (info : ContainerInfo) : Snapshot :=
  { s with infoIndex := info.keys.foldl (indexInfo · info) s.infoIndex }

/-- Whether some key of the info holds it. -/
def holdsInfo (s : Snapshot) (info : ContainerInfo) : Bool :=
  info.keys.any fun key => (s.infos key).contains info

def removeInfo (s : Snapshot) (info : ContainerInfo) : Snapshot :=
  { s with infoIndex := info.keys.foldl (unindexInfo · info) s.infoIndex }

/-- The container is deployed on the server and reached at the host. -/
def register (s : Snapshot) (info : ContainerInfo) (server host : String) : Snapshot :=
  { s with
    containerHosts := info.keys.foldl (·.add · host) s.containerHosts
    serverHosts := s.serverHosts.add server host }.addInfo info

/-- Takes one deployment of the container, and its info, away. -/
def unregister (s : Snapshot) (info : ContainerInfo) (server host : String) : Snapshot :=
  { s with
    containerHosts := info.keys.foldl (·.remove · host) s.containerHosts
    serverHosts := s.serverHosts.remove server host }.removeInfo info

/-- Takes the host that the url lies under out of every list; ids stay. Gives the host too. -/
def sweep (s : Snapshot) (url : String) : Option String × Snapshot :=
  match s.hostOf? url with
  | none => (none, s)
  | some host =>
    (some host, { s with
      containerHosts := s.containerHosts.purge host
      serverHosts := s.serverHosts.purge host })

end Snapshot

end HostRegistry
