/-!
# Command lines

Arguments are options with a value each, positional values, and at most one command that takes over
the arguments behind it. `--` makes everything behind it positional. A request for help ends the
reading with success, anything unexpected with a usage error; what comes first decides. A value that
is an argument of its own is checked when the next argument is read, and after the command if that
is the next.
-/

namespace HostRegistry.CommandLine

structure OptionSpec where
  long : String
  short : Option Char := none
  /-- Whether the value may be empty. -/
  emptyAllowed : Bool := true
deriving DecidableEq, Repr

structure Grammar where
  options : List OptionSpec := []
  /-- How many positional values there may be. -/
  positionals : Nat := 0
  commands : List String := []

/-- Why reading ends without a result. -/
inductive Stop
  | usage
  | help
deriving DecidableEq, Repr

structure Parsed where
  options : List (String × String) := []
  positionals : List String := []
  /-- The option given last with its value, which is still to be checked. -/
  pending : Option (OptionSpec × String) := none
  /-- A command with the arguments behind it. -/
  command : Option (String × List String) := none
deriving DecidableEq, Repr

def Parsed.get? (p : Parsed) (option : String) : Option String := p.options.lookup option

/-- Whether an argument cannot be a value because it looks like an option. -/
def looksLikeOption (arg : String) : Bool := arg.toList.head? = some '-' && arg ≠ "-"

/-- Gives an option its value; an option may be given once. -/
def Parsed.give (p : Parsed) (option : OptionSpec) (value : String) : Except Stop Parsed :=
  if (p.get? option.long).isSome then .error .usage
  else if value = "" && !option.emptyAllowed then .error .usage
  else .ok { p with options := p.options ++ [(option.long, value)] }

/-- Gives the pending option its value. -/
def Parsed.settle (p : Parsed) : Except Stop Parsed :=
  match p.pending with
  | some (option, value) => Parsed.give { p with pending := none } option value
  | none => .ok p

/-- What an argument that looks like an option asks for: an option, and its value if the argument
holds it too. -/
def readOption (g : Grammar) (arg : List Char) : Except Stop (OptionSpec × Option String) :=
  match arg with
  | '-' :: '-' :: rest =>
    let name := String.ofList (rest.takeWhile (· ≠ '='))
    let value := match rest.dropWhile (· ≠ '=') with
      | _ :: value => some (String.ofList value)
      | [] => none
    match g.options.find? (·.long = name) with
    | some option => .ok (option, value)
    | none => .error (if name = "help" && value.isNone then .help else .usage)
  | _ :: c :: rest =>
    match g.options.find? (·.short = some c) with
    | some option =>
      .ok (option, match rest with
        | [] => none
        | '=' :: value => some (String.ofList value)
        | value => some (String.ofList value))
    | none => .error (if c = 'h' then .help else .usage)
  | _ => .error .usage

/-- Reads the arguments; `due` is an option whose value comes next. -/
def parseFrom (g : Grammar) : Parsed → Option OptionSpec → Bool → List String → Except Stop Parsed
  | p, none, _, [] => .ok p
  | _, some _, _, [] => .error .usage
  | p, some option, escaped, arg :: rest =>
    if looksLikeOption arg then .error .usage
    else parseFrom g { p with pending := some (option, arg) } none escaped rest
  | p, none, escaped, arg :: rest =>
    if !escaped && arg = "--" then parseFrom g p none true rest
    else if !escaped && looksLikeOption arg then do
      match ← readOption g arg.toList with
      | (option, none) => parseFrom g (← p.settle) (some option) escaped rest
      | (option, some value) => parseFrom g (← (← p.settle).give option value) none escaped rest
    else if !escaped && g.commands.contains arg then .ok { p with command := some (arg, rest) }
    else if p.positionals.length < g.positionals then do
      let p ← p.settle
      parseFrom g { p with positionals := p.positionals ++ [arg] } none escaped rest
    else .error .usage

/-- Reads all arguments up to a command, whose turn comes before that of the pending option. -/
def parseToCommand (g : Grammar) (args : List String) : Except Stop Parsed :=
  parseFrom g {} none false args

def parse (g : Grammar) (args : List String) : Except Stop Parsed := do
  (← parseToCommand g args).settle

/-- The value of an option that has to be given. -/
def Parsed.need (p : Parsed) (option : String) : Except Stop String :=
  match p.get? option with
  | some value => .ok value
  | none => .error .usage

end HostRegistry.CommandLine
