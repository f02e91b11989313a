import HostRegistry.Json.Registry

/-!
# Bodies of management requests

What a request asks to be registered, deregistered or swept, as read from JSON, and the deployment
that it describes. Every field but the alias has to say something, and the release has to be one.
-/

namespace HostRegistry.Management

open Json

structure Registration where
  containerId : String
  /-- Blank for the artifact of the release. -/
  aliasName : String
  releaseId : String
  serverId : String
  serverUrl : String
deriving DecidableEq, Repr

namespace Registration

structure Given where
  containerId : Option String
  aliasName : Option String
  releaseId : Option String
  serverId : Option String
  serverUrl : Option String

def struct : Struct Given Registration where
  name := "ContainerRegistration"
  fields := [
    ⟨"containerId", (·.containerId.isSome),
      setting readText fun g a => { g with containerId := some a }⟩,
    ⟨"alias", (·.aliasName.isSome), setting readText fun g a => { g with aliasName := some a }⟩,
    ⟨"releaseId", (·.releaseId.isSome), setting readText fun g a => { g with releaseId := some a }⟩,
    ⟨"serverId", (·.serverId.isSome), setting readText fun g a => { g with serverId := some a }⟩,
    ⟨"serverUrl", (·.serverUrl.isSome), setting readText fun g a => { g with serverUrl := some a }⟩]
  start := ⟨none, none, none, none, none⟩
  finish g := do
    pure ⟨← required "containerId" g.containerId, g.aliasName.getD "",
      ← required "releaseId" g.releaseId, ← required "serverId" g.serverId,
      ← required "serverUrl" g.serverUrl⟩

def toJson (r : Registration) : Value :=
  .object [("containerId", .text r.containerId), ("alias", .text r.aliasName),
    ("releaseId", .text r.releaseId), ("serverId", .text r.serverId),
    ("serverUrl", .text r.serverUrl)]

end Registration

structure Report where
  url : String
deriving DecidableEq, Repr

namespace Report

structure Given where
  url : Option String

def struct : Struct Given Report where
  name := "UnavailableReport"
  fields := [⟨"url", (·.url.isSome), setting readText fun g a => { g with url := some a }⟩]
  start := ⟨none⟩
  finish g := do pure ⟨← required "url" g.url⟩

def toJson (r : Report) : Value := .object [("url", .text r.url)]

end Report

/-- Why a well-formed body is refused. -/
inductive Refusal
  | required (field : String)
  | release (cause : Release.ReadError)
deriving DecidableEq, Repr

def Refusal.message : Refusal → String
  | .required field => s!"{field} is required"
  | .release cause => cause.message

/-- The first of the named texts that is blank. -/
def blankField? (fields : List (String × String)) : Option String :=
  (fields.find? fun field => Text.isBlank field.2).map (·.1)

/-- The info of the container to be registered or deregistered. -/
def Registration.info (r : Registration) : Except Refusal ContainerInfo :=
  match blankField? [("containerId", r.containerId), ("releaseId", r.releaseId),
      ("serverId", r.serverId), ("serverUrl", r.serverUrl)] with
  | some field => .error (.required field)
  | none =>
    match Release.ofText r.releaseId with
    | .error cause => .error (.release cause)
    | .ok release =>
      if Text.isBlank r.aliasName then .ok (.ofRelease r.containerId release)
      else .ok ⟨r.containerId, r.aliasName, release⟩

/-- The url that is reported as unavailable. -/
def Report.target (r : Report) : Except Refusal String :=
  if Text.isBlank r.url then .error (.required "url") else .ok r.url

end HostRegistry.Management
