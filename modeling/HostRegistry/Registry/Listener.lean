import HostRegistry.Snapshot.Change

/-!
# Listeners

A listener is called with the contents of a registry after a reload, and may then act on that same
registry: change, sweep or reload it, and attach or detach listeners. What it does is an action, a
tree that branches on the answers of the registry. Listeners may also keep notes of their own, in a
memory of type `σ` that all listeners of a registry share.
-/

namespace HostRegistry

/-- Listeners are numbered from one in the order in which they are attached. When all numbers are
used up they start over. -/
abbrev ListenerId := UInt64

/-- The listener of a number, which may have started over. -/
instance : Coe Nat ListenerId := ⟨UInt64.ofNat⟩

instance : Coe ListenerId Nat := ⟨UInt64.toNat⟩

/-- The id that comes after so many others. -/
def ListenerId.after (given : Nat) : ListenerId := (given + 1 : Nat)

theorem ListenerId.after_succ (given : Nat) : after (given + 1) = after given + 1 :=
  UInt64.ofNat_add _ _

/-- As long as they have not started over, ids differ. -/
theorem ListenerId.after_inj {m n : Nat} (hm : m < UInt64.size) (hn : n < UInt64.size) :
    after m = after n ↔ m = n := by
  refine ⟨fun h => ?_, congrArg after⟩
  have hmod : (m + 1) % UInt64.size = (n + 1) % UInt64.size := congrArg UInt64.toNat h
  unfold UInt64.size at hm hn hmod
  omega

theorem ListenerId.nodup_after {given : Nat} (hleft : given ≤ UInt64.size) :
    ((List.range given).map after).Nodup := by
  refine List.pairwise_map.2 (List.nodup_range.imp_of_mem fun hm hn hne hsame => hne ?_)
  rw [List.mem_range] at hm hn
  exact (after_inj (by omega) (by omega)).1 hsame

inductive Action (σ : Type)
  | done
  | remember (f : σ → σ) (next : Action σ)
  | recall (next : σ → Action σ)
  | inspect (next : Snapshot → Action σ)
  | announce (contents : Snapshot) (next : Action σ)
  | change (c : Change) (next : Action σ)
  | sweep (url : String) (next : Option String → Action σ)
  | reload (contents : Snapshot) (next : Action σ)
  | attach (listener : Snapshot → Action σ) (next : ListenerId → Action σ)
  | detach (id : ListenerId) (next : Bool → Action σ)

abbrev Listener (σ : Type) := Snapshot → Action σ

/-- Announces the contents that are served after each reload. -/
def reloadLogger {σ : Type} : Listener σ := fun contents => .announce contents .done

end HostRegistry
