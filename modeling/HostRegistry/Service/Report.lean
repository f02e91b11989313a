import HostRegistry.Log
import HostRegistry.Management
import HostRegistry.Service.Network
import HostRegistry.Settings

/-!
# What the service reports of its life

The lines that the service logs between its start and its end.
-/

namespace HostRegistry.Report

open Log

def line (target message : String) (fields : List (String × String)) : Line :=
  ⟨.info, target, message, fields⟩

def main : String := "kie_server_router"

def repository : String := "kie_server_router::repository::file"

def watcher : String := "kie_server_router::repository::watcher"

def metrics : String := "kie_server_router::observability::metrics"

def startup : String := "kie_server_router::lifecycle::startup"

def signals : String := "kie_server_router::lifecycle::signals"

def server : String := "kie_server_router::http::server"

def starting : Line := line main s!"kie-server-router v{Management.version} starting" []

def configured (s : Settings) : Line :=
  line main "Configuration loaded" [("bind_address", s.listener.bindAddress),
    ("repository_dir", s.repository.dir), ("watcher_enabled", toString s.repository.watcherEnabled)]

def metricsStarted (address : SocketAddress) : Line :=
  line metrics "Metrics endpoint started" [("address", address.text)]

def metricsFailed (address : SocketAddress) (e : BindError) : Line :=
  ⟨.error, metrics, "Failed to install metrics exporter", [("address", address.text),
    ("error", s!"failed to create HTTP listener: {e.message}")]⟩

def ready (s : RepositorySettings) : Line :=
  line startup "Registry ready" [("path", s.filePath), ("watching", toString s.watcherEnabled)]

def listening (address : SocketAddress) : Line :=
  line server "Management API listening" [("address", address.text)]

/-- What is reported between the signal to end and the end of the last request. -/
def ending : List Line :=
  [line signals "Shutdown signal received" [], line server "Management API shutting down" [],
    line server "Management API stopped" []]

def ended : Line := line main "Shutdown complete" []

/-- What is reported of an event. -/
def ofEvent : Event → List Line
  | .loaded path found contents =>
    let missing := line repository "No repository file, starting with an empty registry"
      [("path", path)]
    let loaded := line repository "Registry loaded" [("path", path),
      ("containers", toString contents.containerHosts.size),
      ("servers", toString contents.serverHosts.size)]
    if found then [loaded] else [missing, loaded]
  | .watchStarted path => [line watcher "Repository watcher started" [("path", path)]]
  | .watchStopped path => [line watcher "Repository watcher stopped" [("path", path)]]
  | _ => []

def ofEvents (journal : List Event) : List Line := journal.flatMap ofEvent

end HostRegistry.Report
