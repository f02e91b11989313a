import HostRegistry.Client.Url
import HostRegistry.Management

/-!
# The client of the management interface

A call is sent as one request to the interface at a base URL. Ids are put into the path as they are.
-/

namespace HostRegistry.Client

open Management

inductive Call
  | status
  | list
  | add (registration : Registration)
  | remove (registration : Registration)
  | unavailable (url : String)
  | containerHosts (id : String)
  | serverHosts (id : String)
  | aliasContainers (name : String)
deriving DecidableEq, Repr

namespace Call

def path : Call → String
  | status => "/mgmt/status"
  | list => "/mgmt/list"
  | add _ => "/mgmt/add"
  | remove _ => "/mgmt/remove"
  | unavailable _ => "/mgmt/unavailable"
  | containerHosts id => s!"/mgmt/containers/{id}/hosts"
  | serverHosts id => s!"/mgmt/servers/{id}/hosts"
  | aliasContainers name => s!"/mgmt/aliases/{name}/containers"

def body? : Call → Option Json.Value
  | add registration | remove registration => some registration.toJson
  | unavailable url => some (Report.toJson ⟨url⟩)
  | _ => none

end Call

/-- The base URL without slashes at its end. -/
def trimBase (base : String) : String :=
  String.ofList (base.toList.reverse.dropWhile (· = '/')).reverse

/-- The request that a call makes, if base and path make up a URL. -/
def request? (base : String) (call : Call) : Option Request :=
  (Url.target? (trimBase base ++ call.path)).map fun target =>
    match call.body? with
    | some body => ⟨"POST", target, some "application/json", Json.compact body⟩
    | none => ⟨"GET", target, none, []⟩

inductive Failure
  | invalidUrl
  | noConnection
deriving DecidableEq, Repr

/-- What stands at the other end: an answer to a request, or nobody. -/
abbrev Peer := Request → Option Response

/-- Nobody listens. -/
def absentPeer : Peer := fun _ => none

def send (peer : Peer) (base : String) (call : Call) : Except Failure Response :=
  match request? base call with
  | none => .error .invalidUrl
  | some request =>
    match peer request with
    | none => .error .noConnection
    | some response => .ok response

end HostRegistry.Client
