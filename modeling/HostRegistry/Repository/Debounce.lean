/-!
# Waiting for a file to come to rest

Changes of a file come in bursts. The loop starts to wait at a change, waits on at every further
one, and takes one look at the file when a period passes without any. A shutdown ends it at once.
-/

namespace HostRegistry.Debounce

inductive Signal
  | changed
  | shutdown
  /-- No other signal came for the whole period. -/
  | quiet
deriving DecidableEq, Repr

inductive State
  | idle
  | settling
  | ended
deriving DecidableEq, Repr

/-- The state after a signal, and whether the file is now looked at. -/
def State.step : State → Signal → State × Bool
  | .ended, _ => (.ended, false)
  | _, .shutdown => (.ended, false)
  | .idle, .changed => (.settling, false)
  | .idle, .quiet => (.idle, false)
  | .settling, .changed => (.settling, false)
  | .settling, .quiet => (.idle, true)

/-- For each signal in turn, whether the file is looked at. -/
def State.looks : State → List Signal → List Bool
  | _, [] => []
  | state, signal :: rest => (state.step signal).2 :: (state.step signal).1.looks rest

def State.after (state : State) (signals : List Signal) : State :=
  signals.foldl (fun state signal => (state.step signal).1) state

end HostRegistry.Debounce
