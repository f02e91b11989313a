import HostRegistry.SortedMap

/-!
# The shutdown signal

A signal is broadcast to everyone who is listening for it at that time. Only the newest signal is
kept: a receiver that missed some is told how many before it gets that one.
-/

namespace HostRegistry

structure Shutdown where
  /-- How many signals were sent while somebody listened. -/
  sent : Nat
  /-- The number of signals sent before the next one that each receiver will look at. -/
  receivers : SortedMap String Nat

namespace Shutdown

inductive Receipt
  | signal
  | empty
  | lagged (missed : Nat)
deriving DecidableEq, Repr

def new : Shutdown := ⟨0, .empty⟩

/-- A new receiver gets the signals sent from now on; one of the same name is replaced. -/
def subscribe (s : Shutdown) (name : String) : Shutdown :=
  { s with receivers := s.receivers.insert name s.sent }

def drop (s : Shutdown) (name : String) : Shutdown :=
  { s with receivers := s.receivers.erase name }

/-- A signal that nobody listens for is lost. -/
def trigger (s : Shutdown) : Shutdown :=
  if s.receivers.isEmpty then s else { s with sent := s.sent + 1 }

def receiverCount (s : Shutdown) : Nat := s.receivers.size

/-- What the named receiver gets, if there is one, without waiting. -/
def receive (s : Shutdown) (name : String) : Option Receipt × Shutdown :=
  match s.receivers.get? name with
  | none => (none, s)
  | some next =>
    if s.sent ≤ next then (some .empty, s)
    else if s.sent = next + 1 then
      (some .signal, { s with receivers := s.receivers.insert name s.sent })
    else
      (some (.lagged (s.sent - 1 - next)),
        { s with receivers := s.receivers.insert name (s.sent - 1) })

end Shutdown

end HostRegistry
