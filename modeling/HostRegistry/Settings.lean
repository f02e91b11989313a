import HostRegistry.Path

/-!
# Settings

What the service is told about its listener, its repository and what it reports. Every setting has a
default.
-/

namespace HostRegistry

structure ListenerSettings where
  bindAddress : String := "0.0.0.0:9000"
deriving DecidableEq, Repr

structure RepositorySettings where
  dir : String := "."
  fileName : String := "kie-server-router.json"
  watcherEnabled : Bool := false
  watcherIntervalMs : UInt64 := 5000
  watcherDebounceMs : UInt64 := 200
deriving DecidableEq, Repr

/-- The path of the repository file. -/
def RepositorySettings.filePath (s : RepositorySettings) : String := Path.join s.dir s.fileName

structure ReportSettings where
  logLevel : String := "info"
  metricsEnabled : Bool := false
  metricsAddress : String := "0.0.0.0:9090"
deriving DecidableEq, Repr

structure Settings where
  listener : ListenerSettings := {}
  repository : RepositorySettings := {}
  report : ReportSettings := {}
deriving DecidableEq, Repr

end HostRegistry
