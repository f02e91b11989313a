import HostRegistry.Percent
import HostRegistry.Text.Pieces

/-!
# Resources of the management interface

A request names a resource by the path of its target, which ends before a query or fragment. Paths
are compared as they are written; the part that holds an id may be empty, and is decoded only when
it is used.
-/

namespace HostRegistry.Management

inductive Resource
  | status
  | list
  | add
  | remove
  | unavailable
  | health
  /-- The hosts of a container, with the id as it is written in the path. -/
  | containerHosts (part : String)
  | serverHosts (part : String)
  | aliasContainers (part : String)
deriving DecidableEq, Repr

/-- The path of a target. -/
def pathOf (target : String) : String :=
  String.ofList (target.toList.takeWhile fun c => c ≠ '?' && c ≠ '#')

def Resource.ofPath? (path : String) : Option Resource :=
  match Text.cut '/' path with
  | ["", "mgmt", "status"] => some .status
  | ["", "mgmt", "list"] => some .list
  | ["", "mgmt", "add"] => some .add
  | ["", "mgmt", "remove"] => some .remove
  | ["", "mgmt", "unavailable"] => some .unavailable
  | ["", "health"] => some .health
  | ["", "mgmt", "containers", part, "hosts"] => some (.containerHosts part)
  | ["", "mgmt", "servers", part, "hosts"] => some (.serverHosts part)
  | ["", "mgmt", "aliases", part, "containers"] => some (.aliasContainers part)
  | _ => none

/-- Whether the resource is changed by requests, and not only queried. -/
def Resource.isChange : Resource → Bool
  | .add | .remove | .unavailable => true
  | _ => false

/-- The methods that a resource answers to, as told in an answer. -/
def Resource.allowed (r : Resource) : String := if r.isChange then "POST" else "GET,HEAD"

def Resource.accepts (r : Resource) (method : String) : Bool :=
  if r.isChange then method = "POST" else method = "GET" || method = "HEAD"

/-- The id that a part of a path stands for, if its bytes are UTF-8. -/
def decodePart? (part : String) : Option String :=
  Bytes.toText? (Percent.decode (Bytes.ofText part))

end HostRegistry.Management
