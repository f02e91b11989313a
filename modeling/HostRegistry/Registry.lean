import HostRegistry.Event

/-!
# The live registry

A registry holds its current contents and the listeners that want to hear of reloads. Changes and
sweeps put new contents in place and call nobody. A reload replaces the contents and then calls the
listeners that are attached at that moment, in the order in which they were attached, each with the
contents current when its turn comes; a listener's action runs to its end before the next is called.
-/

namespace HostRegistry

structure Registry (σ : Type) where
  contents : Snapshot
  listeners : List (ListenerId × Listener σ)
  nextId : ListenerId

namespace Registry

variable {σ : Type}

/-- A registry without listeners. -/
def ofSnapshot (contents : Snapshot) : Registry σ := ⟨contents, [], 1⟩

def empty : Registry σ := ofSnapshot .empty

def attach (r : Registry σ) (listener : Listener σ) : Registry σ :=
  { r with listeners := r.listeners ++ [(r.nextId, listener)], nextId := r.nextId + 1 }

def hasListener (r : Registry σ) (id : ListenerId) : Bool := r.listeners.any (·.1 = id)

def detach (r : Registry σ) (id : ListenerId) : Registry σ :=
  { r with listeners := r.listeners.filter (·.1 ≠ id) }

theorem ids_attach (r : Registry σ) (listener : Listener σ) :
    (r.attach listener).listeners.map (·.1) = r.listeners.map (·.1) ++ [r.nextId] := by
  rw [attach, List.map_append]
  rfl

theorem ids_detach (r : Registry σ) (id : ListenerId) :
    (r.detach id).listeners.map (·.1) = (r.listeners.map (·.1)).filter (· ≠ id) := by
  rw [detach, List.filter_map]
  rfl

end Registry

/-- A registry at work, with the memory of its listeners and the journal so far. -/
structure Session (σ : Type) where
  registry : Registry σ
  memory : σ
  journal : List Event

namespace Session

variable {σ : Type}

def contents (w : Session σ) : Snapshot := w.registry.contents

def note (w : Session σ) (e : Event) : Session σ := { w with journal := w.journal ++ [e] }

def setContents (w : Session σ) (contents : Snapshot) : Session σ :=
  { w with registry := { w.registry with contents } }

def change (w : Session σ) (c : Change) : Session σ :=
  let contents := c.apply w.contents
  (w.setContents contents).note (.stored contents)

/-- Sweeps the host that the url lies under out of the registry, and gives it. -/
def sweep (w : Session σ) (url : String) : Option String × Session σ :=
  let (host, contents) := w.contents.sweep url
  (host, ((w.setContents contents).note (.stored contents)).note (.swept host))

/-- Replaces the contents without calling anybody. -/
def publish (w : Session σ) (contents : Snapshot) : Session σ :=
  (w.setContents contents).note (.published contents)

def attach (w : Session σ) (listener : Listener σ) : ListenerId × Session σ :=
  (w.registry.nextId, { w with registry := w.registry.attach listener })

/-- Tells whether the listener was attached. -/
def detach (w : Session σ) (id : ListenerId) : Bool × Session σ :=
  (w.registry.hasListener id, { w with registry := w.registry.detach id })

/-- Performs an action, where `notify` calls the listeners after a reload that is part of it. -/
def perform (notify : Session σ → Option (Session σ)) : Action σ → Session σ → Option (Session σ)
  | .done, w => some w
  | .remember f next, w => perform notify next { w with memory := f w.memory }
  | .recall next, w => perform notify (next w.memory) w
  | .inspect next, w => perform notify (next w.contents) w
  | .announce contents next, w => perform notify next (w.note (.serving contents))
  | .change c next, w => perform notify next (w.change c)
  | .sweep url next, w =>
    let (host, w) := w.sweep url
    perform notify (next host) w
  | .reload contents next, w => (notify (w.publish contents)).bind (perform notify next)
  | .attach listener next, w =>
    let (id, w) := w.attach listener
    perform notify (next id) w
  | .detach id next, w =>
    let (found, w) := w.detach id
    perform notify (next found) w

/-- Calls the listeners one after the other. -/
def callAll (notify : Session σ → Option (Session σ)) :
    List (ListenerId × Listener σ) → Session σ → Option (Session σ)
  | [], w => some w
  | (id, listener) :: rest, w =>
    (perform notify (listener w.contents) (w.note (.called id w.contents))).bind
      (callAll notify rest)

/-- Calls the listeners that are attached now. Reloads may nest up to the given depth, counting
this one; `none` stands for a deeper nest. -/
def notify : Nat → Session σ → Option (Session σ)
  | 0, _ => none
  | depth + 1, w =>
    let listeners := w.registry.listeners
    callAll (notify depth) listeners (w.note (.notifying (listeners.map (·.1))))

/-- Replaces the contents and tells the listeners. -/
def reload (depth : Nat) (w : Session σ) (contents : Snapshot) : Option (Session σ) :=
  notify depth (w.publish contents)

end Session

end HostRegistry
