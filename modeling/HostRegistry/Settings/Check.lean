import HostRegistry.Settings
import HostRegistry.SocketAddress
import HostRegistry.Text.Blank

/-!
# Checking settings

The rules that settings have to keep beyond their type. All broken rules are reported, in the order
of the rules.
-/

namespace HostRegistry

inductive Violation
  | bindAddress (value : String)
  | emptyFileName
  | fileName (value : String)
  | watcherInterval
  | logLevel (value : String)
  | metricsAddress (value : String)
deriving DecidableEq, Repr

namespace Violation

def field : Violation → String
  | .bindAddress _ => "listener.bind_address"
  | .emptyFileName | .fileName _ => "repository.file_name"
  | .watcherInterval => "repository.watcher_interval_ms"
  | .logLevel _ => "observability.log_level"
  | .metricsAddress _ => "observability.metrics_address"

def message : Violation → String
  | .bindAddress value | .metricsAddress value => s!"'{value}' is not a socket address"
  | .emptyFileName => "must not be empty"
  | .fileName value => s!"'{value}' must be a plain file name"
  | .watcherInterval => "must be greater than zero"
  | .logLevel value => s!"unknown level '{value}'"

def text (v : Violation) : String := s!"{v.field}: {v.message}"

end Violation

namespace Settings

def logLevels : List String := ["trace", "debug", "info", "warn", "error"]

def isSocketAddress (s : String) : Bool := (SocketAddress.ofText? s).isSome

/-- Whether a file name is the last part of itself as a path. -/
def isPlainName (name : String) : Bool := Path.fileName? name = some name

def checkFileName (name : String) : List Violation :=
  if name = "" then [.emptyFileName]
  else if isPlainName name then []
  else [.fileName name]

def violations (s : Settings) : List Violation :=
  (if isSocketAddress s.listener.bindAddress then [] else [.bindAddress s.listener.bindAddress]) ++
  checkFileName s.repository.fileName ++
  (if s.repository.watcherIntervalMs = 0 then [.watcherInterval] else []) ++
  (if logLevels.contains s.report.logLevel.toLower then [] else [.logLevel s.report.logLevel]) ++
  (if s.report.metricsEnabled && !isSocketAddress s.report.metricsAddress then
    [.metricsAddress s.report.metricsAddress] else [])

end Settings

end HostRegistry
