import HostRegistry.FileTree
import HostRegistry.Settings.Check
import HostRegistry.Settings.Document

/-!
# Layers of settings

Settings come from defaults, a file and the environment, later layers over earlier ones, and are
then checked. The first layer that cannot be read decides the error.
-/

namespace HostRegistry

inductive SettingsError
  | unreadable (path : String) (cause : String)
  | unparsable
  | environment (name : String) (value : String)
  | invalid (violations : List Violation)
deriving DecidableEq, Repr

def SettingsError.message : SettingsError → String
  | .unreadable path cause => s!"IO error reading {path}: {cause}"
  | .unparsable => "Parse error"
  | .environment name value => s!"Invalid value '{value}' for {name}"
  | .invalid violations =>
    "Validation failed: " ++ ", ".intercalate (violations.map Violation.text)

/-- The values of the variables that are set to a text. -/
abbrev Environment := String → Option String

namespace Settings

/-- The settings in the contents of a file. -/
def ofBytes (path : String) (contents : Bytes) : Except SettingsError Settings :=
  match Bytes.toText? contents with
  | none => .error (.unreadable path "stream did not contain valid UTF-8")
  | some s =>
    match ofText? s with
    | some settings => .ok settings
    | none => .error .unparsable

/-- The settings in a file. -/
def ofFile (files : FileTree) (path : String) : Except SettingsError Settings :=
  match files.read path with
  | .error e => .error (.unreadable path e.message)
  | .ok contents => ofBytes path contents

/-- Reads a truth value, in any case and with blanks around it. -/
def readFlag? (s : String) : Option Bool :=
  let word := (Text.trim s).toLower
  if word = "true" || word = "1" || word = "yes" then some true
  else if word = "false" || word = "0" || word = "no" then some false
  else none

/-- Reads a number below 2 ^ 64, with blanks around it and perhaps a plus sign before it. -/
def readUInt64? (s : String) : Option UInt64 :=
  let cs := (Text.trim s).toList
  let digits := match cs with
    | '+' :: rest => rest
    | _ => cs
  let value := digits.foldl (fun n c => n * 10 + (c.toNat - 0x30)) 0
  if digits.isEmpty || !digits.all Char.isDigit || value > 0xFFFFFFFFFFFFFFFF then none
  else some value.toUInt64

/-- A name as a setting: the setting as it is if the name is not set. -/
def overridden {α : Type} (environment : Environment) (name : String)
    (read : String → Option α) (current : α) : Except SettingsError α :=
  match environment name with
  | none => .ok current
  | some value =>
    match read value with
    | some a => .ok a
    | none => .error (.environment name value)

def withEnvironment (environment : Environment) (s : Settings) : Except SettingsError Settings := do
  let dir := (environment "ROUTER_REPOSITORY_DIR").getD s.repository.dir
  let watcherEnabled ← overridden environment "CONFIG_FILE_WATCHER_ENABLED" readFlag?
    s.repository.watcherEnabled
  let watcherIntervalMs ← overridden environment "CONFIG_FILE_WATCHER_INTERVAL" readUInt64?
    s.repository.watcherIntervalMs
  let bindAddress := (environment "ROUTER_BIND_ADDRESS").getD s.listener.bindAddress
  let logLevel := (environment "ROUTER_LOG_LEVEL").getD s.report.logLevel
  pure {
    listener := { s.listener with bindAddress }
    repository := { s.repository with dir, watcherEnabled, watcherIntervalMs }
    report := { s.report with logLevel } }

def checked (s : Settings) : Except SettingsError Settings :=
  match s.violations with
  | [] => .ok s
  | violations => .error (.invalid violations)

/-- The settings in effect, from the file at the path if one is named. -/
def effective (files : FileTree) (path : Option String) (environment : Environment) :
    Except SettingsError Settings := do
  let base ← match path with
    | some path => ofFile files path
    | none => pure {}
  checked (← withEnvironment environment base)

end Settings

end HostRegistry
