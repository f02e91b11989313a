import HostRegistry.Management.Body
import HostRegistry.Management.MediaType
import HostRegistry.Management.Route
import HostRegistry.Repository

/-!
# The management interface

Requests query and change the live registry. A request that changes it is checked as a whole first;
its change is then made and the registry written to its file before the answer is given. An answer
of 500 says that the change stands but could not be written.
-/

namespace HostRegistry.Management

open Json

structure Request where
  method : String
  target : String
  contentType : Option String
  body : Bytes
deriving DecidableEq, Repr

structure Response where
  status : Nat
  contentType : Option String
  body : Bytes
  /-- The methods that the resource answers to, told when the request used another. -/
  allow : Option String
deriving DecidableEq, Repr

namespace Response

def json (status : Nat) (value : Value) : Response :=
  ⟨status, some "application/json", compact value, none⟩

def text (status : Nat) (s : String) : Response :=
  ⟨status, some "text/plain; charset=utf-8", Bytes.ofText s, none⟩

def bare (status : Nat) : Response := ⟨status, none, [], none⟩

def error (status : Nat) (message : String) : Response :=
  json status (.object [("error", .text message)])

end Response

/-- The version that the service reports of itself. -/
def version : String := "0.1.0"

def statusJson (s : Snapshot) : Value :=
  .object [("version", .text version), ("containers", .natural s.containerHosts.size),
    ("servers", .natural s.serverHosts.size), ("container_infos", .natural s.distinctInfos.size),
    ("host_entries", .natural s.hostCount)]

/-- The live registry and the repository that it is written to. -/
structure Service (σ ι : Type) where
  session : Session σ
  store : Store ι

variable {σ ι : Type}

/-! ## Bodies -/

/-- The answer to a body that cannot be read. -/
def unreadable : Fault → Response
  | .truncated | .malformed => .text 400 "Failed to parse the request body as JSON"
  | .shape path mismatch =>
    let place := if path.isEmpty then "" else pathText path ++ ": "
    let cause := place ++ mismatch.message
    .text 422 s!"Failed to deserialize the JSON body into the target type: {cause}"

/-- The largest body that is taken in. -/
def maxBodyBytes : Nat := 2 * 1024 * 1024

/-- Reads the body of a request, which has to be declared as JSON. -/
def readBody {ρ α : Type} (struct : Struct ρ α) (r : Request) : Except Response α :=
  if !(r.contentType.map MediaType.isJson).getD false then
    .error (.text 415 "Expected request with \x60Content-Type: application/json\x60")
  else if r.body.length > maxBodyBytes then
    .error (.text 413 "Failed to buffer the request body: length limit exceeded")
  else (readWhole struct.read r.body).mapError unreadable

def refused (cause : Refusal) : Response := .error 400 cause.message

/-- The change that a request to register or deregister asks for. -/
def requestedChange (r : Request) (change : ContainerInfo → String → String → Change) :
    Except Response Change := do
  let registration ← readBody Registration.struct r
  let info ← registration.info.mapError refused
  pure (change info registration.serverId registration.serverUrl)

/-- The url that a request reports as unavailable. -/
def reportedUrl (r : Request) : Except Response String := do
  let report ← readBody Report.struct r
  report.target.mapError refused

/-! ## Answers -/

namespace Service

/-- Writes the live registry to its file; the answer is the given one if that succeeds. -/
def persist (s : Service σ ι) (answer : Snapshot → Response) : Response × Service σ ι :=
  match s.store.persist s.session.contents with
  | (.ok (), store) => (answer s.session.contents, { s with store })
  | (.error e, store) =>
    (.error 500 s!"Failed to persist registry: {e.message}", { s with store })

def change (s : Service σ ι) (c : Change) : Service σ ι :=
  { s with session := s.session.change c }

def answerChange (s : Service σ ι) (c : Except Response Change) : Response × Service σ ι :=
  match c with
  | .error response => (response, s)
  | .ok c => (s.change c).persist fun contents => .json 200 (statusJson contents)

/-- Sweeps the host of a reported url; nothing is written if there is none. -/
def answerReport (s : Service σ ι) (url : Except Response String) : Response × Service σ ι :=
  match url with
  | .error response => (response, s)
  | .ok url =>
    match s.session.sweep url with
    | (none, session) => (.json 200 (.object [("removed", .null)]), { s with session })
    | (some host, session) =>
      { s with session }.persist fun _ => .json 200 (.object [("removed", .text host)])

/-- Answers a query by the id in the path, which the interface calls by a name of its own. -/
def answerId (name part : String) (answer : String → Value) : Response :=
  match decodePart? part with
  | some id => .json 200 (answer id)
  | none => .text 400 s!"Invalid URL: Invalid UTF-8 in \x60{name}\x60"

/-- Answers a query; health is the one whose answer is always the same. -/
def answerQuery (contents : Snapshot) : Resource → Response
  | .status => .json 200 (statusJson contents)
  | .list => .json 200 contents.toJson
  | .containerHosts part => answerId "id" part fun id => texts (contents.hostsOfContainer id)
  | .serverHosts part => answerId "id" part fun id => texts (contents.hostsOfServer id)
  | .aliasContainers part =>
    answerId "alias" part fun id => Snapshot.infosToJson (contents.infos id)
  | _ => .text 200 "OK"

/-- Answers a request that uses a method of the resource. -/
def answer (s : Service σ ι) (r : Request) : Resource → Response × Service σ ι
  | .add => s.answerChange (requestedChange r .register)
  | .remove => s.answerChange (requestedChange r .unregister)
  | .unavailable => s.answerReport (reportedUrl r)
  | resource =>
    let response := answerQuery s.session.contents resource
    (if r.method = "HEAD" then { response with body := [] } else response, s)

def respond (s : Service σ ι) (r : Request) : Response × Service σ ι :=
  match Resource.ofPath? (pathOf r.target) with
  | none => (.bare 404, s)
  | some resource =>
    if resource.accepts r.method then s.answer r resource
    else ({ Response.bare 405 with allow := some resource.allowed }, s)

end Service

end HostRegistry.Management
