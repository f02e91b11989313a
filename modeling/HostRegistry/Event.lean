import HostRegistry.Registry.Listener

/-!
# The journal

Every operation notes what it did as a list of events, in the order in which it happened. Metrics
are read off these events, and so is who was called when.
-/

namespace HostRegistry

inductive Event
  /-- A change put new contents in place. -/
  | stored (contents : Snapshot)
  /-- An unavailable host was looked for and, if there was one, taken out. -/
  | swept (host : Option String)
  /-- The whole contents were replaced. -/
  | published (contents : Snapshot)
  /-- A notification of the given listeners starts. -/
  | notifying (listeners : List ListenerId)
  /-- A listener is called with the contents. -/
  | called (listener : ListenerId) (contents : Snapshot)
  /-- The contents after a reload are announced. -/
  | serving (contents : Snapshot)
  /-- The registry was written to its file, or could not be. -/
  | persisted (success : Bool)
  /-- The file could not be read when it was looked at again. -/
  | rereadFailed
  /-- The registry was read from its file; without one it is empty. -/
  | loaded (path : String) (found : Bool) (contents : Snapshot)
  | watchStarted (path : String)
  | watchStopped (path : String)
deriving DecidableEq

end HostRegistry
