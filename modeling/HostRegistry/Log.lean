/-!
# Log lines

A line has a level, the part of the service that speaks, a message and named values.
-/

namespace HostRegistry.Log

inductive Level
  | error
  | warn
  | info
  | debug
  | trace
deriving DecidableEq, Repr

namespace Level

def name : Level → String
  | error => "ERROR"
  | warn => "WARN"
  | info => "INFO"
  | debug => "DEBUG"
  | trace => "TRACE"

/-- Higher for levels that say more. -/
def verbosity : Level → Nat
  | error => 1
  | warn => 2
  | info => 3
  | debug => 4
  | trace => 5

end Level

structure Line where
  level : Level
  target : String
  message : String
  fields : List (String × String)
deriving DecidableEq, Repr

def Line.text (l : Line) : String :=
  s!"{l.level.name} {l.target}: {l.message}" ++
    String.join (l.fields.map fun (name, value) => s!" {name}={value}")

/-- Whether a line carries a value of the given name; each carries its message. -/
def Line.has (l : Line) (field : String) : Bool := field = "message" || l.fields.any (·.1 = field)

end HostRegistry.Log
