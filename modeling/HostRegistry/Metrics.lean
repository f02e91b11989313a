import HostRegistry.Event

/-!
# Metrics

The samples are a reading of the journal: three gauges hold the sizes last noted, the counters count
events. A sample that was never recorded is absent.
-/

namespace HostRegistry

/-- How large the contents of a registry are. -/
structure Sizes where
  containers : Nat
  servers : Nat
  hostEntries : Nat
deriving DecidableEq, Repr

def Snapshot.sizes (s : Snapshot) : Sizes :=
  ⟨s.containerHosts.size, s.serverHosts.size, s.hostCount⟩

/-- The sizes that an event records. -/
def Event.sizes? : Event → Option Sizes
  | .stored contents | .published contents | .serving contents => some contents.sizes
  | _ => none

inductive Counter
  | reloads
  | sweeps (removed : Bool)
  | watchErrors
  | persists (success : Bool)
deriving DecidableEq, Repr

/-- The counter that an event adds one to. -/
def Event.counter? : Event → Option Counter
  | .published _ => some .reloads
  | .swept host => some (.sweeps host.isSome)
  | .rereadFailed => some .watchErrors
  | .persisted success => some (.persists success)
  | _ => none

namespace Metrics

/-- The values of the gauges after the events of a journal. -/
def gauges (journal : List Event) : Option Sizes := journal.reverse.findSome? Event.sizes?

def count (c : Counter) (journal : List Event) : Nat := journal.countP (·.counter? = some c)

def Counter.name : Counter → String
  | .reloads => "kie_router_reloads_total"
  | .sweeps true => "kie_router_unavailable_sweeps_total\x7boutcome=\"removed\"\x7d"
  | .sweeps false => "kie_router_unavailable_sweeps_total\x7boutcome=\"no_match\"\x7d"
  | .watchErrors => "kie_router_watch_errors_total"
  | .persists true => "kie_router_persist_total\x7boutcome=\"ok\"\x7d"
  | .persists false => "kie_router_persist_total\x7boutcome=\"error\"\x7d"

def gaugeLines (sizes : Sizes) : List (String × Nat) :=
  [("kie_router_containers", sizes.containers), ("kie_router_servers", sizes.servers),
    ("kie_router_host_entries", sizes.hostEntries)]

/-- The counters in the order of their sample names. -/
def counters : List Counter :=
  [.persists false, .persists true, .reloads, .sweeps false, .sweeps true, .watchErrors]

/-- All recorded samples, one `name value` line each, in the order of the lines' bytes. -/
def lines (journal : List Event) : List String :=
  let gauges := ((gauges journal).map gaugeLines).getD []
  let counts := (counters.map fun c => (Counter.name c, count c journal)).filter (·.2 ≠ 0)
  ((gauges ++ counts).map fun (name, value) => s!"{name} {value}").mergeSort (decide <| · ≤ ·)

end Metrics

end HostRegistry
