import HostRegistry.Client
import HostRegistry.CommandLine

/-!
# The client's command line

One call of the management interface per run. The base URL is an option before the command; the
fields of a registration are options behind it, and all but the alias have to be given.
-/

namespace HostRegistry.Client.Command

open CommandLine

def defaultBase : String := "http://localhost:9000"

def mainGrammar : Grammar where
  options := [{ long := "url", short := some 'u' }]
  commands := ["status", "list", "add", "remove", "unavailable", "container-hosts", "server-hosts",
    "aliases", "help"]

def registrationGrammar : Grammar where
  options := ["container-id", "alias", "release-id", "server-id", "server-url"].map fun long =>
    { long }

def registration (args : List String) : Except Stop Management.Registration := do
  let p ← parse registrationGrammar args
  pure {
    containerId := ← p.need "container-id"
    aliasName := (p.get? "alias").getD ""
    releaseId := ← p.need "release-id"
    serverId := ← p.need "server-id"
    serverUrl := ← p.need "server-url" }

/-- The one value behind a command. -/
def operand (args : List String) : Except Stop String := do
  match (← parse { positionals := 1 } args).positionals with
  | [value] => pure value
  | _ => .error .usage

/-- A command without arguments. -/
def plain (call : Call) (args : List String) : Except Stop Call := do
  let _ ← parse {} args
  pure call

/-- Help may be asked for one of the commands. -/
def help (args : List String) : Stop :=
  match args with
  | [] => .help
  | [command] => if mainGrammar.commands.contains command then .help else .usage
  | _ => .usage

def call (command : String) (args : List String) : Except Stop Call :=
  match command with
  | "status" => plain .status args
  | "list" => plain .list args
  | "add" => (registration args).map .add
  | "remove" => (registration args).map .remove
  | "unavailable" => (operand args).map .unavailable
  | "container-hosts" => (operand args).map .containerHosts
  | "server-hosts" => (operand args).map .serverHosts
  | "aliases" => (operand args).map .aliasContainers
  | _ => .error (help args)

/-- The base URL and the call that the arguments ask for. What is behind the command is read before
the base URL is checked, so a request for help there is answered. -/
def ofArguments (args : List String) : Except Stop (String × Call) := do
  let p ← parseToCommand mainGrammar args
  match p.command with
  | none => .error .usage
  | some (command, rest) =>
    let call ← call command rest
    pure (((← p.settle).get? "url").getD defaultBase, call)

end HostRegistry.Client.Command
