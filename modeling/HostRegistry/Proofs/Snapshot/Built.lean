import HostRegistry.Proofs.Record

/-!
# Contents built by operations

Contents come about from nothing by changes, sweeps and the loading of records, in any order. Each
operation leaves a well-formed index of infos, so every run of them does.
-/

namespace HostRegistry

/-- One step in the life of the contents of a registry. -/
inductive Operation
  | change (c : Change)
  | sweep (url : String)
  /-- Puts what the record describes in place, or nothing if it describes nothing. -/
  | load (r : Record)
deriving DecidableEq, Repr

def Operation.apply : Operation → Snapshot → Snapshot
  | change c, s => c.apply s
  | sweep url, s => (s.sweep url).2
  | load r, s =>
    match r.toSnapshot with
    | .ok contents => contents
    | .error _ => s

namespace Snapshot

open InfoIndex

/-- The contents after the operations, from the first one on. -/
def after (s : Snapshot) (ops : List Operation) : Snapshot :=
  ops.foldl (fun s op => op.apply s) s

/-- The contents that the operations build from nothing. -/
def built (ops : List Operation) : Snapshot := empty.after ops

theorem infoIndex_sweep (s : Snapshot) (url : String) :
    (s.sweep url).2.infoIndex = s.infoIndex := by
  rw [sweep]
  split <;> rfl

theorem wellFormed_change {s : Snapshot} (h : WellFormed s.infoIndex) (c : Change) :
    WellFormed (c.apply s).infoIndex := by
  cases c with
  | addContainerHost id host => exact h
  | removeContainerHost id host => exact h
  | addServerHost id host => exact h
  | removeServerHost id host => exact h
  | addInfo info => exact wellFormed_addInfo h info
  | removeInfo info => exact wellFormed_removeInfo h info
  | register info server host => exact wellFormed_addInfo h info
  | unregister info server host => exact wellFormed_removeInfo h info

theorem wellFormed_operation {s : Snapshot} (h : WellFormed s.infoIndex) (op : Operation) :
    WellFormed (op.apply s).infoIndex := by
  cases op with
  | change c => exact wellFormed_change h c
  | sweep url =>
    rw [Operation.apply, infoIndex_sweep]
    exact h
  | load r =>
    rw [Operation.apply]
    split
    next hr => exact (Record.loadable_of_toSnapshot hr).2
    next => exact h

theorem wellFormed_after {s : Snapshot} (h : WellFormed s.infoIndex) (ops : List Operation) :
    WellFormed (s.after ops).infoIndex := by
  induction ops generalizing s with
  | nil => exact h
  | cons op rest ih => exact ih (wellFormed_operation h op)

/-- Whatever the operations, every info is under all of its keys and under no other one. -/
theorem wellFormed_built (ops : List Operation) : WellFormed (built ops).infoIndex :=
  wellFormed_after wellFormed_empty ops

end Snapshot

end HostRegistry
