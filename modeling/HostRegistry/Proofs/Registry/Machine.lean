import HostRegistry.Registry
import Mathlib.Data.List.Basic

/-!
# A registry at work, step by step

What a listener does may reload the registry that called it, so notifications nest. A machine keeps
the work that is still to be done as a stack of actions and of listeners to be called, and takes one
step at a time; what can be seen of its steps makes up a trace. A whole performance is a run of the
machine, and a run that reloads a bounded number of times is a whole performance.
-/

namespace HostRegistry

/-- What can be seen of a registry at work: its events, who is attached and detached, and that a
notification ends. -/
inductive Observation
  | noted (e : Event)
  | attached (id : ListenerId)
  | detached (id : ListenerId) (found : Bool)
  | notified
deriving DecidableEq

namespace Observation

def event? : Observation → Option Event
  | noted e => some e
  | _ => none

def isReload : Observation → Bool
  | noted (.published _) => true
  | _ => false

end Observation

/-- What was seen, in the order in which it was. -/
abbrev Trace := List Observation

/-- Work that is still to be done. -/
inductive Frame (σ : Type)
  | acting (action : Action σ)
  /-- The listeners of a notification that are still to be called. -/
  | calling (listeners : List (ListenerId × Listener σ))

structure Machine (σ : Type) where
  session : Session σ
  frames : List (Frame σ)

namespace Machine

variable {σ : Type}

/-- Takes one step, if there is anything to do. -/
def advance : Machine σ → Option (Trace × Machine σ)
  | ⟨_, []⟩ => none
  | ⟨w, .acting .done :: below⟩ => some ([], ⟨w, below⟩)
  | ⟨w, .acting (.remember f next) :: below⟩ =>
    some ([], ⟨{ w with memory := f w.memory }, .acting next :: below⟩)
  | ⟨w, .acting (.recall next) :: below⟩ => some ([], ⟨w, .acting (next w.memory) :: below⟩)
  | ⟨w, .acting (.inspect next) :: below⟩ => some ([], ⟨w, .acting (next w.contents) :: below⟩)
  | ⟨w, .acting (.announce contents next) :: below⟩ =>
    some ([.noted (.serving contents)], ⟨w.note (.serving contents), .acting next :: below⟩)
  | ⟨w, .acting (.change c next) :: below⟩ =>
    some ([.noted (.stored (c.apply w.contents))], ⟨w.change c, .acting next :: below⟩)
  | ⟨w, .acting (.sweep url next) :: below⟩ =>
    let (host, contents) := w.contents.sweep url
    some ([.noted (.stored contents), .noted (.swept host)],
      ⟨(w.sweep url).2, .acting (next host) :: below⟩)
  | ⟨w, .acting (.reload contents next) :: below⟩ =>
    let listeners := w.registry.listeners
    let start := Event.notifying (listeners.map (·.1))
    some ([.noted (.published contents), .noted start],
      ⟨(w.publish contents).note start, .calling listeners :: .acting next :: below⟩)
  | ⟨w, .acting (.attach listener next) :: below⟩ =>
    let (id, w) := w.attach listener
    some ([.attached id], ⟨w, .acting (next id) :: below⟩)
  | ⟨w, .acting (.detach id next) :: below⟩ =>
    let (found, w) := w.detach id
    some ([.detached id found], ⟨w, .acting (next found) :: below⟩)
  | ⟨w, .calling [] :: below⟩ => some ([.notified], ⟨w, below⟩)
  | ⟨w, .calling ((id, listener) :: rest) :: below⟩ =>
    let call := Event.called id w.contents
    some ([.noted call], ⟨w.note call, .acting (listener w.contents) :: .calling rest :: below⟩)

/-- A run from one machine to another, with all that can be seen of it. -/
inductive Reaches (m : Machine σ) : Trace → Machine σ → Prop
  | refl : Reaches m [] m
  | step {trace seen : Trace} {m₁ m₂ : Machine σ} (h : Reaches m trace m₁)
      (hstep : m₁.advance = some (seen, m₂)) : Reaches m (trace ++ seen) m₂

theorem Reaches.trans {m m₁ m₂ : Machine σ} {trace trace' : Trace}
    (h : Reaches m trace m₁) (h' : Reaches m₁ trace' m₂) : Reaches m (trace ++ trace') m₂ := by
  induction h' with
  | refl => rwa [List.append_nil]
  | step _ hstep ih =>
    rw [← List.append_assoc]
    exact ih.step hstep

theorem Reaches.head {m m₁ m₂ : Machine σ} {seen trace : Trace}
    (hstep : m.advance = some (seen, m₁)) (h : Reaches m₁ trace m₂) :
    Reaches m (seen ++ trace) m₂ :=
  Reaches.trans (Reaches.refl.step hstep) h

/-- What is seen of the first steps, as many as there are up to the given number, and where they
lead. -/
def run : Nat → Machine σ → Trace × Machine σ
  | 0, m => ([], m)
  | steps + 1, m =>
    match m.advance with
    | none => ([], m)
    | some (seen, next) =>
      let (trace, last) := run steps next
      (seen ++ trace, last)

theorem reaches_run (steps : Nat) (m : Machine σ) : Reaches m (run steps m).1 (run steps m).2 := by
  induction steps generalizing m with
  | zero => exact .refl
  | succ steps ih =>
    rw [run]
    split
    next => exact .refl
    next seen next hstep => exact (ih next).head hstep

/-- Only a notification calls listeners, with the contents that are current: an action that changes
or sweeps the registry, attaches or detaches calls nobody. -/
theorem calling_of_called {m m' : Machine σ} {seen : Trace} (h : m.advance = some (seen, m'))
    {id : ListenerId} {contents : Snapshot} (hcalled : .noted (.called id contents) ∈ seen) :
    contents = m.session.contents ∧
      ∃ listener rest below, m.frames = .calling ((id, listener) :: rest) :: below ∧
        m'.frames = .acting (listener contents) :: .calling rest :: below := by
  obtain ⟨w, frames⟩ := m
  rcases frames with _ | ⟨action | listeners, below⟩
  · cases h
  · cases action <;> cases h <;> simp at hcalled
  · rcases listeners with _ | ⟨⟨id', listener⟩, rest⟩
    · cases h
      simp at hcalled
    · cases h
      cases List.mem_singleton.1 hcalled
      exact ⟨rfl, listener, rest, below, rfl, rfl⟩

/-! ## Performances are runs -/

/-- What notifies is a run of the machine from the first of the listeners on. -/
def Follows (notify : Session σ → Option (Session σ)) : Prop :=
  ∀ (w w' : Session σ) (below : List (Frame σ)), notify w = some w' →
    ∃ trace, Reaches
      ⟨w.note (.notifying (w.registry.listeners.map (·.1))),
        .calling w.registry.listeners :: below⟩ trace ⟨w', below⟩

theorem reaches_of_perform {notify : Session σ → Option (Session σ)} (hnotify : Follows notify)
    {action : Action σ} {w w' : Session σ} (below : List (Frame σ))
    (h : Session.perform notify action w = some w') :
    ∃ trace, Reaches ⟨w, .acting action :: below⟩ trace ⟨w', below⟩ := by
  induction action generalizing w with
  | done =>
    cases h
    exact ⟨_, Reaches.refl.step rfl⟩
  | remember f next ih =>
    obtain ⟨trace, hrun⟩ := ih h
    exact ⟨_, hrun.head rfl⟩
  | «recall» next ih | inspect next ih =>
    obtain ⟨trace, hrun⟩ := ih _ h
    exact ⟨_, hrun.head rfl⟩
  | announce contents next ih | change c next ih =>
    obtain ⟨trace, hrun⟩ := ih h
    exact ⟨_, hrun.head rfl⟩
  | sweep url next ih | attach listener next _ ih | detach id next ih =>
    obtain ⟨trace, hrun⟩ := ih _ h
    exact ⟨_, hrun.head rfl⟩
  | reload contents next ih =>
    obtain ⟨w₁, hnotified, hnext⟩ := Option.bind_eq_some_iff.1 h
    obtain ⟨trace₁, hrun₁⟩ := hnotify _ _ (.acting next :: below) hnotified
    obtain ⟨trace₂, hrun₂⟩ := ih hnext
    exact ⟨_, (hrun₁.trans hrun₂).head rfl⟩

theorem reaches_of_callAll {notify : Session σ → Option (Session σ)} (hnotify : Follows notify)
    {listeners : List (ListenerId × Listener σ)} {w w' : Session σ} (below : List (Frame σ))
    (h : Session.callAll notify listeners w = some w') :
    ∃ trace, Reaches ⟨w, .calling listeners :: below⟩ trace ⟨w', below⟩ := by
  induction listeners generalizing w with
  | nil =>
    cases h
    exact ⟨_, Reaches.refl.step rfl⟩
  | cons attached rest ih =>
    obtain ⟨id, listener⟩ := attached
    obtain ⟨w₁, hcalled, hrest⟩ := Option.bind_eq_some_iff.1 h
    obtain ⟨trace₁, hrun₁⟩ := reaches_of_perform hnotify (.calling rest :: below) hcalled
    obtain ⟨trace₂, hrun₂⟩ := ih hrest
    exact ⟨_, (hrun₁.trans hrun₂).head rfl⟩

theorem follows_notify (depth : Nat) :
    Follows (Session.notify depth : Session σ → Option (Session σ)) := by
  induction depth with
  | zero => nofun
  | succ depth ih => exact fun w w' below h => reaches_of_callAll ih below h

/-! ## Runs that end -/

def reloads (trace : Trace) : Nat := trace.countP Observation.isReload

/-- No run from the machine reloads more often than this. -/
def Bounded (m : Machine σ) (bound : Nat) : Prop :=
  ∀ trace m', Reaches m trace m' → reloads trace ≤ bound

theorem Bounded.mono {m : Machine σ} {bound bound' : Nat} (h : m.Bounded bound)
    (hle : bound ≤ bound') : m.Bounded bound' :=
  fun trace m' hrun => Nat.le_trans (h trace m' hrun) hle

theorem Bounded.after {m m' : Machine σ} {bound : Nat} {trace : Trace}
    (h : m.Bounded bound) (hrun : Reaches m trace m') :
    reloads trace ≤ bound ∧ m'.Bounded (bound - reloads trace) := by
  refine ⟨h trace m' hrun, fun rest m'' hrest => ?_⟩
  have hwhole := h _ _ (hrun.trans hrest)
  rw [reloads, List.countP_append] at hwhole
  exact Nat.le_sub_of_add_le (by rw [Nat.add_comm]; exact hwhole)

theorem Bounded.advance {m m' : Machine σ} {bound : Nat} {seen : Trace}
    (h : m.Bounded bound) (hstep : m.advance = some (seen, m')) :
    m'.Bounded (bound - reloads seen) :=
  (h.after (Reaches.refl.step hstep)).2

/-- A run is empty or begins with the one step that the machine can take. -/
theorem Reaches.cases_head {m m' : Machine σ} {trace : Trace} (h : Reaches m trace m') :
    (trace = [] ∧ m' = m) ∨ ∃ seen m₁ rest, m.advance = some (seen, m₁) ∧ Reaches m₁ rest m' ∧
      trace = seen ++ rest := by
  induction h with
  | refl => exact .inl ⟨rfl, rfl⟩
  | step _ hstep ih =>
    right
    rcases ih with ⟨rfl, rfl⟩ | ⟨seen, m₁, rest, hfirst, hrest, rfl⟩
    · exact ⟨_, _, [], hstep, .refl, by rw [List.nil_append, List.append_nil]⟩
    · exact ⟨seen, m₁, _, hfirst, hrest.step hstep, List.append_assoc _ _ _⟩

/-- Every run is a part of the one that comes to the end. -/
theorem Reaches.to_end {m m' last : Machine σ} {whole trace : Trace} (hwhole : Reaches m whole last)
    (hend : last.frames = []) (h : Reaches m trace m') :
    ∃ rest, Reaches m' rest last ∧ whole = trace ++ rest := by
  induction h with
  | refl => exact ⟨whole, hwhole, rfl⟩
  | @step trace seen m₁ m₂ _ hstep ih =>
    obtain ⟨rest, hrest, rfl⟩ := ih
    rcases hrest.cases_head with ⟨rfl, rfl⟩ | ⟨seen', m₂', rest', hstep', hrest', rfl⟩
    · obtain ⟨w, frames⟩ := last
      cases hend
      cases hstep
    · cases hstep.symm.trans hstep'
      exact ⟨rest', hrest', (List.append_assoc _ _ _).symm⟩

theorem bounded_of_reaches {m last : Machine σ} {whole : Trace} (h : Reaches m whole last)
    (hend : last.frames = []) : m.Bounded (reloads whole) := by
  intro trace m' hrun
  obtain ⟨rest, -, rfl⟩ := h.to_end hend hrun
  rw [reloads, reloads, List.countP_append]
  exact Nat.le_add_right _ _

/-- Reloads get through if what they set off reloads less often than the bound. -/
def Serves (notify : Session σ → Option (Session σ)) (bound : Nat) : Prop :=
  ∀ (w : Session σ) (below : List (Frame σ)),
    Bounded ⟨w.note (.notifying (w.registry.listeners.map (·.1))),
      .calling w.registry.listeners :: below⟩ bound → ∃ w', notify w = some w'

theorem exists_perform {notify : Session σ → Option (Session σ)} (hfollows : Follows notify)
    {bound : Nat} (hserves : ∀ fewer, fewer < bound → Serves notify fewer) {action : Action σ}
    {w : Session σ} {below : List (Frame σ)} (h : Bounded ⟨w, .acting action :: below⟩ bound) :
    ∃ w', Session.perform notify action w = some w' := by
  induction action generalizing w with
  | done => exact ⟨w, rfl⟩
  | remember f next ih | announce contents next ih | change c next ih => exact ih (h.advance rfl)
  | «recall» next ih | inspect next ih | sweep url next ih | attach listener next _ ih
  | detach id next ih => exact ih _ (h.advance rfl)
  | reload contents next ih =>
    have hcalling := h.after (Reaches.refl.step rfl)
    have hbound : 1 ≤ bound := hcalling.1
    obtain ⟨w₁, hnotified⟩ := hserves (bound - 1) (by omega) _ _ hcalling.2
    obtain ⟨trace, hrun⟩ := hfollows _ _ (.acting next :: below) hnotified
    obtain ⟨w₂, hperform⟩ := ih ((hcalling.2.after hrun).2.mono (by omega))
    exact ⟨w₂, Option.bind_eq_some_iff.2 ⟨w₁, hnotified, hperform⟩⟩

theorem exists_callAll {notify : Session σ → Option (Session σ)} (hfollows : Follows notify)
    {bound : Nat} (hserves : ∀ fewer, fewer < bound → Serves notify fewer)
    {listeners : List (ListenerId × Listener σ)} {w : Session σ} {below : List (Frame σ)}
    (h : Bounded ⟨w, .calling listeners :: below⟩ bound) :
    ∃ w', Session.callAll notify listeners w = some w' := by
  induction listeners generalizing w with
  | nil => exact ⟨w, rfl⟩
  | cons attached rest ih =>
    obtain ⟨id, listener⟩ := attached
    have hacting := h.advance rfl
    obtain ⟨w₁, hcalled⟩ := exists_perform hfollows hserves hacting
    obtain ⟨trace, hrun⟩ := reaches_of_perform hfollows (.calling rest :: below) hcalled
    obtain ⟨w₂, hrest⟩ := ih ((hacting.after hrun).2.mono (Nat.sub_le _ _))
    exact ⟨w₂, Option.bind_eq_some_iff.2 ⟨w₁, hcalled, hrest⟩⟩

/-- Each nested notification has reloaded once more, so none nests deeper than the bound. -/
theorem serves_notify {depth bound : Nat} (h : bound < depth) :
    Serves (Session.notify depth : Session σ → Option (Session σ)) bound := by
  induction depth generalizing bound with
  | zero => cases h
  | succ depth ih =>
    intro w below hbounded
    exact exists_callAll (follows_notify depth) (fun fewer hfewer => ih (by omega)) hbounded

/-- A run that reloads a bounded number of times comes to its end. -/
theorem exists_perform_of_bounded {action : Action σ} {w : Session σ} {below : List (Frame σ)}
    {bound : Nat} (h : Bounded ⟨w, .acting action :: below⟩ bound) :
    ∃ w', Session.perform (Session.notify bound) action w = some w' :=
  exists_perform (follows_notify bound) (fun _ hfewer => serves_notify hfewer) h

end Machine

end HostRegistry
