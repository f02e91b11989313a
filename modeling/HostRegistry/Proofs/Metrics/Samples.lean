import HostRegistry.Metrics
import HostRegistry.Proofs.Registry.Machine
import HostRegistry.Proofs.Repository.Mirror
import HostRegistry.Proofs.Snapshot.Sweep
import Mathlib.Algebra.GroupWithZero.Nat

/-!
# Metrics follow the registry

The deeds of a registry at work are its changes, its sweeps and the publications of its reloads,
those of its listeners included. A machine tells its next deed before it takes the step. The
counters count the deeds, and from the first deed on the gauges hold the sizes of the contents:
sizes are noted with each deed, and a listener that announces contents is called with the ones that
are in place.
-/

namespace HostRegistry

/-! ## Reading samples -/

namespace Metrics

theorem gauges_append (journal journal' : List Event) :
    gauges (journal ++ journal') = (gauges journal').or (gauges journal) := by
  rw [gauges, List.reverse_append, List.findSome?_append]
  rfl

theorem count_append (c : Counter) (journal journal' : List Event) :
    count c (journal ++ journal') = count c journal + count c journal' :=
  List.countP_append

end Metrics

/-- The event is one of a repository: it notes no sizes, no publication and no sweep. -/
def Event.isOfRepository : Event → Bool
  | .persisted _ | .rereadFailed | .loaded .. | .watchStarted _ | .watchStopped _ => true
  | _ => false

/-- The counters of what is done to a registry. -/
def Counter.isOfRegistry : Counter → Bool
  | .reloads | .sweeps _ => true
  | _ => false

theorem Event.sizes?_of_isOfRepository {e : Event} (h : e.isOfRepository = true) :
    e.sizes? = none := by
  cases e with
  | stored | published | serving => cases h
  | _ => rfl

theorem Event.counter?_of_isOfRepository {e : Event} (h : e.isOfRepository = true) {c : Counter}
    (hc : c.isOfRegistry = true) : e.counter? ≠ some c := by
  intro hcounter
  cases e with
  | persisted | rereadFailed =>
    cases hcounter
    cases hc
  | loaded | watchStarted | watchStopped => cases hcounter
  | stored | swept | published | notifying | called | serving => cases h

/-- The third journal holds the events of the other two, each in its order. -/
inductive Interleaves : List Event → List Event → List Event → Prop
  | nil : Interleaves [] [] []
  | left {left right journal : List Event} (e : Event) (h : Interleaves left right journal) :
      Interleaves (e :: left) right (e :: journal)
  | right {left right journal : List Event} (e : Event) (h : Interleaves left right journal) :
      Interleaves left (e :: right) (e :: journal)

/-- What a repository notes leaves the samples of a registry as they are. -/
theorem Interleaves.samples {left right journal : List Event} (h : Interleaves left right journal)
    (hright : ∀ e ∈ right, e.isOfRepository = true) :
    Metrics.gauges journal = Metrics.gauges left ∧
      ∀ c : Counter, c.isOfRegistry = true → Metrics.count c journal = Metrics.count c left := by
  induction h with
  | nil => exact ⟨rfl, fun _ _ => rfl⟩
  | left e _ ih =>
    obtain ⟨hgauges, hcount⟩ := ih hright
    constructor
    · rw [← List.singleton_append, Metrics.gauges_append, hgauges, ← Metrics.gauges_append]
      rfl
    · intro c hc
      rw [← List.singleton_append, Metrics.count_append, hcount c hc, ← Metrics.count_append]
      rfl
  | right e _ ih =>
    obtain ⟨he, hrest⟩ := List.forall_mem_cons.1 hright
    obtain ⟨hgauges, hcount⟩ := ih hrest
    constructor
    · have hnone : Metrics.gauges [e] = none := by
        simp [Metrics.gauges, Event.sizes?_of_isOfRepository he]
      rw [← List.singleton_append, Metrics.gauges_append, hgauges, hnone, Option.or_none]
    · intro c hc
      have hnone : Metrics.count c [e] = 0 := by
        simp [Metrics.count, Event.counter?_of_isOfRepository he hc]
      rw [← List.singleton_append, Metrics.count_append, hcount c hc, hnone, Nat.zero_add]

/-! ## Deeds -/

/-- What is done to a registry. -/
inductive Deed
  | change
  | publish
  /-- A host was looked for, and removed if there was one. -/
  | sweep (removed : Bool)
deriving DecidableEq

/-- The counter that counts the deed. -/
def Deed.counter? : Deed → Option Counter
  | change => none
  | publish => some .reloads
  | sweep removed => some (.sweeps removed)

namespace Machine

variable {σ : Type}

/-- What the next step does to the registry, if it does anything. -/
def deed? : Machine σ → Option Deed
  | ⟨_, .acting (.change ..) :: _⟩ => some .change
  | ⟨_, .acting (.reload ..) :: _⟩ => some .publish
  | ⟨w, .acting (.sweep url _) :: _⟩ => some (.sweep (w.contents.hostOf? url).isSome)
  | _ => none

/-- A run from one machine to another, with all its deeds. -/
inductive Performs (m : Machine σ) : List Deed → Machine σ → Prop
  | refl : Performs m [] m
  | step {deeds : List Deed} {seen : Trace} {m₁ m₂ : Machine σ} (h : Performs m deeds m₁)
      (hstep : m₁.advance = some (seen, m₂)) : Performs m (deeds ++ m₁.deed?.toList) m₂

theorem Reaches.performs {m m' : Machine σ} {trace : Trace} (h : Reaches m trace m') :
    ∃ deeds, Performs m deeds m' := by
  induction h with
  | refl => exact ⟨[], .refl⟩
  | step _ hstep ih =>
    obtain ⟨deeds, hdeeds⟩ := ih
    exact ⟨_, hdeeds.step hstep⟩

end Machine

/-! ## Listeners that announce what is in place -/

/-- The action announces nothing, and attaches only listeners that announce nothing or are reload
loggers. It may do all else. -/
inductive Action.Silent {σ : Type} : Action σ → Prop
  | done : Silent .done
  | remember {f : σ → σ} {next : Action σ} (h : next.Silent) : Silent (.remember f next)
  | consult {next : σ → Action σ} (h : ∀ memory, (next memory).Silent) : Silent (.recall next)
  | inspect {next : Snapshot → Action σ} (h : ∀ contents, (next contents).Silent) :
      Silent (.inspect next)
  | change {c : Change} {next : Action σ} (h : next.Silent) : Silent (.change c next)
  | sweep {url : String} {next : Option String → Action σ} (h : ∀ host, (next host).Silent) :
      Silent (.sweep url next)
  | reload {contents : Snapshot} {next : Action σ} (h : next.Silent) :
      Silent (.reload contents next)
  | attach {listener : Listener σ} {next : ListenerId → Action σ}
      (hlistener : ∀ contents, (listener contents).Silent) (h : ∀ id, (next id).Silent) :
      Silent (.attach listener next)
  | attachLogger {next : ListenerId → Action σ} (h : ∀ id, (next id).Silent) :
      Silent (.attach reloadLogger next)
  | detach {id : ListenerId} {next : Bool → Action σ} (h : ∀ found, (next found).Silent) :
      Silent (.detach id next)

/-- A reload logger, or a listener whose actions announce nothing. -/
def Listener.Tame {σ : Type} (listener : Listener σ) : Prop :=
  listener = reloadLogger ∨ ∀ contents, (listener contents).Silent

def Registry.Tame {σ : Type} (r : Registry σ) : Prop :=
  ∀ attached ∈ r.listeners, Listener.Tame attached.2

theorem Registry.Tame.attach {σ : Type} {r : Registry σ} (h : r.Tame) {listener : Listener σ}
    (hlistener : listener.Tame) : (r.attach listener).Tame := by
  intro attached hattached
  rcases List.mem_append.1 hattached with hold | hlast
  · exact h attached hold
  · cases List.mem_singleton.1 hlast
    exact hlistener

theorem Registry.Tame.detach {σ : Type} {r : Registry σ} (h : r.Tame) (id : ListenerId) :
    (r.detach id).Tame :=
  fun attached hattached => h attached (List.mem_of_mem_filter hattached)

/-- The frame announces nothing itself, and calls nobody that announces other contents than it is
called with. -/
def Frame.Tame {σ : Type} : Frame σ → Prop
  | .acting action => action.Silent
  | .calling listeners => ∀ attached ∈ listeners, Listener.Tame attached.2

namespace Machine

variable {σ : Type}

/-- Nothing but the contents in place will be announced: all that is registered and all that is to
be done is tame, but for a reload logger that has just been called. -/
structure Truthful (m : Machine σ) : Prop where
  registry : m.session.registry.Tame
  frames : (∀ frame ∈ m.frames, frame.Tame) ∨
    ∃ below, m.frames = .acting (.announce m.session.contents .done) :: below ∧
      ∀ frame ∈ below, frame.Tame

/-- An action goes on with the rest of it. -/
private theorem tame_next {next : Action σ} {below : List (Frame σ)} (h : next.Silent)
    (hbelow : ∀ frame ∈ below, frame.Tame) : ∀ frame ∈ .acting next :: below, frame.Tame :=
  List.forall_mem_cons.2 ⟨h, hbelow⟩

theorem Truthful.advance {m m' : Machine σ} {seen : Trace} (h : m.Truthful)
    (hstep : m.advance = some (seen, m')) : m'.Truthful := by
  obtain ⟨w, frames⟩ := m
  obtain ⟨hregistry, htame | ⟨below, hframes, hbelow⟩⟩ := h
  · rcases frames with _ | ⟨action | listeners, below⟩
    · cases hstep
    · obtain ⟨haction, hbelow⟩ := List.forall_mem_cons.1 htame
      cases haction with
      | done =>
        cases hstep
        exact ⟨hregistry, .inl hbelow⟩
      | remember hnext | change hnext =>
        cases hstep
        exact ⟨hregistry, .inl (tame_next hnext hbelow)⟩
      | consult hnext | inspect hnext | sweep hnext =>
        cases hstep
        exact ⟨hregistry, .inl (tame_next (hnext _) hbelow)⟩
      | reload hnext =>
        cases hstep
        exact ⟨hregistry, .inl (List.forall_mem_cons.2 ⟨hregistry, tame_next hnext hbelow⟩)⟩
      | attach hlistener hnext =>
        cases hstep
        exact ⟨hregistry.attach (.inr hlistener), .inl (tame_next (hnext _) hbelow)⟩
      | attachLogger hnext =>
        cases hstep
        exact ⟨hregistry.attach (.inl rfl), .inl (tame_next (hnext _) hbelow)⟩
      | @detach id _ hnext =>
        cases hstep
        exact ⟨hregistry.detach id, .inl (tame_next (hnext _) hbelow)⟩
    · obtain ⟨hlisteners, hbelow⟩ := List.forall_mem_cons.1 htame
      rcases listeners with _ | ⟨⟨id, listener⟩, rest⟩
      · cases hstep
        exact ⟨hregistry, .inl hbelow⟩
      · cases hstep
        obtain ⟨hlistener, hrest⟩ := List.forall_mem_cons.1 hlisteners
        have hbelow' : ∀ frame ∈ Frame.calling rest :: below, frame.Tame :=
          List.forall_mem_cons.2 ⟨hrest, hbelow⟩
        rcases hlistener with rfl | hsilent
        · exact ⟨hregistry, .inr ⟨_, rfl, hbelow'⟩⟩
        · exact ⟨hregistry, .inl (tame_next (hsilent _) hbelow')⟩
  · change frames = .acting (.announce w.contents .done) :: below at hframes
    subst hframes
    cases hstep
    exact ⟨hregistry, .inl (tame_next .done hbelow)⟩

/-- What a step notes: the deed if it is one, with the sizes of the new contents, and otherwise no
sizes but those that a listener announces. -/
theorem noted_of_advance {m m' : Machine σ} {seen : Trace} (hstep : m.advance = some (seen, m')) :
    ∃ noted, m'.session.journal = m.session.journal ++ noted ∧
      (∀ c : Counter, c.isOfRegistry = true →
        Metrics.count c noted = m.deed?.toList.countP (·.counter? = some c)) ∧
      (Metrics.gauges noted = some m'.session.contents.sizes ∨
        m.deed? = none ∧ m'.session.contents = m.session.contents ∧
          (Metrics.gauges noted = none ∨ ∃ contents next below,
            m.frames = .acting (.announce contents next) :: below ∧
              Metrics.gauges noted = some contents.sizes)) := by
  obtain ⟨w, frames⟩ := m
  rcases frames with _ | ⟨action | listeners, below⟩
  · cases hstep
  · cases action with
    | done | remember f next | «recall» next | inspect next | attach listener next
    | detach id next =>
      cases hstep
      exact ⟨[], (List.append_nil _).symm, fun _ _ => rfl, .inr ⟨rfl, rfl, .inl rfl⟩⟩
    | announce contents next =>
      cases hstep
      refine ⟨[.serving contents], rfl, fun _ _ => rfl, .inr ⟨rfl, rfl, .inr ?_⟩⟩
      exact ⟨contents, next, below, rfl, rfl⟩
    | change c next =>
      cases hstep
      exact ⟨[.stored (c.apply w.contents)], rfl, fun _ _ => rfl, .inl rfl⟩
    | sweep url next =>
      cases hstep
      have hhost : (w.contents.sweep url).1 = w.contents.hostOf? url := w.contents.sweep_fst url
      refine ⟨[.stored (w.contents.sweep url).2, .swept (w.contents.sweep url).1],
        List.append_assoc _ _ _, fun c hc => ?_, .inl rfl⟩
      simp [Metrics.count, deed?, Event.counter?, Deed.counter?, hhost, List.countP_cons]
    | reload contents next =>
      cases hstep
      exact ⟨[.published contents, .notifying _], List.append_assoc _ _ _, fun _ _ => rfl, .inl rfl⟩
  · rcases listeners with _ | ⟨⟨id, listener⟩, rest⟩
    · cases hstep
      exact ⟨[], (List.append_nil _).symm, fun _ _ => rfl, .inr ⟨rfl, rfl, .inl rfl⟩⟩
    · cases hstep
      exact ⟨[.called id w.contents], rfl, fun _ _ => rfl, .inr ⟨rfl, rfl, .inl rfl⟩⟩

/-- The samples say what the deeds were: the counters count them, and the gauges hold the sizes of
the contents in place, if anything was recorded at all. -/
structure Tells (journal : List Event) (contents : Snapshot) (deeds : List Deed) : Prop where
  gauges : Metrics.gauges journal = some contents.sizes ∨
    deeds = [] ∧ Metrics.gauges journal = none
  count : ∀ c : Counter, c.isOfRegistry = true →
    Metrics.count c journal = deeds.countP (·.counter? = some c)

theorem Tells.advance {m m' : Machine σ} {seen : Trace} {deeds : List Deed}
    (h : Tells m.session.journal m.session.contents deeds) (htruthful : m.Truthful)
    (hstep : m.advance = some (seen, m')) :
    Tells m'.session.journal m'.session.contents (deeds ++ m.deed?.toList) := by
  obtain ⟨noted, hjournal, hcount, hgauges⟩ := noted_of_advance hstep
  constructor
  · rw [hjournal, Metrics.gauges_append]
    rcases hgauges with hnew | ⟨hdeed, hcontents, hnone | ⟨announced, next, below, hframes, hnew⟩⟩
    · rw [hnew]
      exact .inl rfl
    · rw [hnone, hdeed, hcontents]
      simpa using h.gauges
    · -- Only a reload logger that has just been called announces anything.
      rcases htruthful.frames with htame | ⟨below', hcalled, -⟩
      · rw [hframes] at htame
        cases htame _ (.head _)
      · cases hframes.symm.trans hcalled
        rw [hnew, hcontents]
        exact .inl rfl
  · intro c hc
    rw [hjournal, Metrics.count_append, List.countP_append, h.count c hc, hcount c hc]

theorem Performs.tells {m m' : Machine σ} {deeds deeds' : List Deed} (h : Performs m deeds' m')
    (htruthful : m.Truthful) (htells : Tells m.session.journal m.session.contents deeds) :
    m'.Truthful ∧ Tells m'.session.journal m'.session.contents (deeds ++ deeds') := by
  induction h with
  | refl => exact ⟨htruthful, by rwa [List.append_nil]⟩
  | step _ hstep ih =>
    obtain ⟨htruthful', htells'⟩ := ih
    refine ⟨htruthful'.advance hstep, ?_⟩
    rw [← List.append_assoc]
    exact htells'.advance htruthful' hstep

end Machine

/-! ## Runs -/

namespace Following

variable {σ ι : Type}

/-- Listeners that are attached are tame. -/
def Step.Tame : Step σ → Prop
  | attach listener => Listener.Tame listener
  | _ => True

/-- What the step does to the registry, as an action. A look that publishes is a reload. -/
def work (f : Following σ ι) : Step σ → Action σ
  | .change c => .change c .done
  | .sweep url => .sweep url fun _ => .done
  | .reload contents => .reload contents .done
  | .attach listener => .attach listener fun _ => .done
  | .detach id => .detach id fun _ => .done
  | .look =>
    let (published, session, _) := f.store.publishIfChanged f.session
    if published then .reload session.contents .done else .done
  | .persist .. | .clean | .outside _ => .done

theorem perform_reload (depth : Nat) (contents : Snapshot) (w : Session σ) :
    Session.perform (Session.notify depth) (.reload contents .done) w =
      Session.notify depth (w.publish contents) := by
  show (Session.notify depth (w.publish contents)).bind _ = _
  cases Session.notify depth (w.publish contents) <;> rfl

/-- Taking a step performs its action. -/
theorem perform_work {depth : Nat} {f f' : Following σ ι} {step : Step σ}
    (h : (f.take depth step).2 = some f') :
    Session.perform (Session.notify depth) (f.work step) f.session = some f'.session := by
  cases step with
  | change c | sweep url | attach listener | detach id | persist ops device | clean
  | outside files =>
    cases h
    rfl
  | reload contents =>
    obtain ⟨session, hreload, rfl⟩ := Option.map_eq_some_iff.1 h
    rw [work, perform_reload]
    exact hreload
  | look =>
    obtain ⟨session, hrefresh, rfl⟩ := Option.map_eq_some_iff.1 h
    unfold work
    rcases f.store.publishIfChanged_cases f.session with
      ⟨contents, -, -, -, hlook⟩ | ⟨contents, -, -, hlook⟩ | ⟨-, hlook | hlook⟩
    · simp only [hlook, if_true] at hrefresh ⊢
      rw [perform_reload]
      exact hrefresh
    all_goals
      simp only [hlook] at hrefresh ⊢
      exact hrefresh

/-- The deeds of the steps, one after the other. -/
inductive Does (depth : Nat) : Following σ ι → List (Step σ) → List Deed → Following σ ι → Prop
  | nil {f : Following σ ι} : Does depth f [] [] f
  | cons {f f₁ f' : Following σ ι} {step : Step σ} {rest : List (Step σ)} {deeds deeds' : List Deed}
      (htake : (f.take depth step).2 = some f₁)
      (hwork : Machine.Performs ⟨f.session, [.acting (f.work step)]⟩ deeds ⟨f₁.session, []⟩)
      (hrest : Does depth f₁ rest deeds' f') : Does depth f (step :: rest) (deeds ++ deeds') f'

theorem exists_does {depth : Nat} {f f' : Following σ ι} {steps : List (Step σ)}
    (h : after depth f steps = some f') : ∃ deeds, Does depth f steps deeds f' := by
  induction steps generalizing f with
  | nil =>
    cases h
    exact ⟨[], .nil⟩
  | cons step rest ih =>
    obtain ⟨f₁, htake, hafter⟩ := Option.bind_eq_some_iff.1 h
    obtain ⟨trace, hrun⟩ :=
      Machine.reaches_of_perform (Machine.follows_notify depth) [] (perform_work htake)
    obtain ⟨deeds, hwork⟩ := hrun.performs
    obtain ⟨deeds', hrest⟩ := ih hafter
    exact ⟨_, .cons htake hwork hrest⟩

theorem silent_work (f : Following σ ι) {step : Step σ} (h : step.Tame) :
    (f.work step).Silent := by
  cases step with
  | attach listener =>
    rcases h with rfl | hsilent
    · exact .attachLogger fun _ => .done
    · exact .attach hsilent fun _ => .done
  | look =>
    rw [work]
    split
    split
    · exact .reload .done
    · exact .done
  | change c => exact .change .done
  | sweep url => exact .sweep fun _ => .done
  | reload contents => exact .reload .done
  | detach id => exact .detach fun _ => .done
  | persist ops device | clean | outside files => exact .done

theorem journal_of_take {depth : Nat} {f f' : Following σ ι} {step : Step σ}
    (h : (f.take depth step).2 = some f')
    (hstore : ∀ e ∈ f.store.journal, e.isOfRepository = true) :
    ∀ e ∈ f'.store.journal, e.isOfRepository = true := by
  have hnote : ∀ e : Event, e.isOfRepository = true →
      ∀ e' ∈ f.store.journal ++ [e], e'.isOfRepository = true := fun e he =>
    List.forall_mem_append.2 ⟨hstore, List.forall_mem_singleton.2 he⟩
  cases step with
  | change c | sweep url | attach listener | detach id | outside files =>
    cases h
    exact hstore
  | reload contents =>
    obtain ⟨session, -, rfl⟩ := Option.map_eq_some_iff.1 h
    exact hstore
  | persist ops device =>
    cases h
    obtain ⟨success, hjournal⟩ :=
      Store.persist_journal { f.store with device } (Snapshot.built ops)
    show ∀ e ∈ ({ f.store with device }.persist (Snapshot.built ops)).2.journal, _
    rw [hjournal]
    exact hnote _ rfl
  | clean =>
    cases h
    show ∀ e ∈ f.store.clean.2.journal, _
    rw [(Store.clean_synced f.store).2]
    exact hstore
  | look =>
    obtain ⟨session, -, rfl⟩ := Option.map_eq_some_iff.1 h
    show ∀ e ∈ (f.store.refresh depth f.session).2.journal, _
    rw [refresh_snd]
    rcases f.store.publishIfChanged_cases f.session with
      ⟨contents, -, -, -, hlook⟩ | ⟨contents, -, -, hlook⟩ | ⟨-, hlook | hlook⟩
    all_goals rw [hlook]
    · exact hstore
    · exact hstore
    · exact hstore
    · exact hnote _ rfl

theorem Does.tells {depth : Nat} {f f' : Following σ ι} {steps : List (Step σ)}
    {deeds deeds' : List Deed} (h : Does depth f steps deeds' f')
    (hsteps : ∀ step ∈ steps, step.Tame) (hregistry : f.session.registry.Tame)
    (hstore : ∀ e ∈ f.store.journal, e.isOfRepository = true)
    (htells : Machine.Tells f.session.journal f.session.contents deeds) :
    (∀ e ∈ f'.store.journal, e.isOfRepository = true) ∧
      Machine.Tells f'.session.journal f'.session.contents (deeds ++ deeds') := by
  induction h generalizing deeds with
  | nil => exact ⟨hstore, by rwa [List.append_nil]⟩
  | @cons f _ _ step _ _ _ htake hwork _ ih =>
    obtain ⟨hstep, hrest⟩ := List.forall_mem_cons.1 hsteps
    have htruthful : Machine.Truthful ⟨f.session, [.acting (f.work step)]⟩ :=
      ⟨hregistry, .inl (List.forall_mem_singleton.2 (f.silent_work hstep))⟩
    obtain ⟨htruthful', htells'⟩ := hwork.tells htruthful htells
    rw [← List.append_assoc]
    exact ih hrest htruthful'.registry (journal_of_take htake hstore) htells'

/-- After any steps, however the events of the registry and of its repository follow each other: as
soon as anything was done, the gauges are the number of container ids, of server ids and of hosts,
each as often as it is listed; the counters are the numbers of publications, of sweeps that removed
a host and of those that did not, whoever was called in between and whatever he did. -/
theorem samples_follow_deeds {depth : Nat} {f f' : Following σ ι} {steps : List (Step σ)}
    (hregistry : f.session.registry.Tame) (hfresh : f.session.journal = [])
    (hstore : ∀ e ∈ f.store.journal, e.isOfRepository = true)
    (hsteps : ∀ step ∈ steps, step.Tame) (hafter : after depth f steps = some f') :
    (∃ deeds, Does depth f steps deeds f') ∧
    ∀ deeds, Does depth f steps deeds f' →
      ∀ journal, Interleaves f'.session.journal f'.store.journal journal →
        (deeds ≠ [] → ∃ sizes, Metrics.gauges journal = some sizes ∧
          sizes.containers = f'.session.contents.containerHosts.keys.length ∧
          sizes.servers = f'.session.contents.serverHosts.keys.length ∧
          sizes.hostEntries =
            (f'.session.contents.containerHosts.values.map List.length).sum +
              (f'.session.contents.serverHosts.values.map List.length).sum) ∧
        Metrics.count .reloads journal = deeds.count .publish ∧
        ∀ removed, Metrics.count (.sweeps removed) journal = deeds.count (.sweep removed) := by
  refine ⟨exists_does hafter, fun deeds hdoes journal hjournal => ?_⟩
  have hstart : Machine.Tells f.session.journal f.session.contents [] := by
    rw [hfresh]
    exact ⟨.inr ⟨rfl, rfl⟩, fun _ _ => rfl⟩
  obtain ⟨hstore', htells⟩ := hdoes.tells hsteps hregistry hstore hstart
  rw [List.nil_append] at htells
  obtain ⟨hgauges, hcount⟩ := hjournal.samples hstore'
  have hdeeds (d : Deed) (c : Counter) (hc : c.isOfRegistry = true)
      (honly : ∀ d' : Deed, d'.counter? = some c ↔ d' = d) :
      Metrics.count c journal = deeds.count d := by
    rw [hcount c hc, htells.count c hc, List.count_eq_countP]
    exact List.countP_congr fun d' _ => by simp [honly]
  refine ⟨fun hdone => ?_, hdeeds .publish .reloads rfl ?_, fun removed => ?_⟩
  · obtain hsizes | ⟨hnone, -⟩ := htells.gauges
    · refine ⟨_, hgauges.trans hsizes, ?_, ?_, ?_⟩
      · simp [Snapshot.sizes, SortedMap.size, SortedMap.keys]
      · simp [Snapshot.sizes, SortedMap.size, SortedMap.keys]
      · simp [Snapshot.sizes, Snapshot.hostCount, Snapshot.allHosts, HostMap.allHosts]
    · exact (hdone hnone).elim
  · intro d
    cases d <;> simp [Deed.counter?]
  · apply hdeeds (.sweep removed) (.sweeps removed) rfl
    intro d
    cases d <;> simp [Deed.counter?]

theorem interleaves_append (left right : List Event) : Interleaves left right (left ++ right) := by
  induction left with
  | nil =>
    induction right with
    | nil => exact .nil
    | cons e right ih => exact .right e ih
  | cons e left ih => exact .left e ih

/-- Reloads and sweeps when it is called for the first time. -/
def sweepingOnce : Listener Bool := fun _ =>
  .recall fun again =>
    if again then .done
    else .remember (fun _ => true)
      (.reload (Snapshot.empty.addContainerHost "c" "http://h")
        (.sweep "http://h/x" fun _ => .sweep "http://i" fun _ => .done))

/-- A registry that follows a file. -/
def bareFollowing : Following Bool Unit :=
  ⟨⟨.empty, false, []⟩, (plainStore.load ()).2⟩

/-- The file is written from outside while listeners reload and sweep. -/
def writtenSteps : List (Step Bool) :=
  [.attach sweepingOnce, .attach reloadLogger, .reload .empty,
    .outside (FileTree.empty.set ["work", "f.json"] (.file (Record.ofSnapshot
      (Snapshot.built [.change (.addServerHost "s" "http://j")])).toBytes)),
    .look]

theorem samples_writtenSteps :
    ∃ f' deeds journal, after 3 bareFollowing writtenSteps = some f' ∧
      Does 3 bareFollowing writtenSteps deeds f' ∧
      Interleaves f'.session.journal f'.store.journal journal ∧
      Metrics.gauges journal = some ⟨0, 1, 1⟩ ∧ deeds.count .publish = 3 ∧
      deeds.count (.sweep true) = 1 ∧ deeds.count (.sweep false) = 1 := by
  have hsamples : (after 3 bareFollowing writtenSteps).map (fun f' =>
      let journal := f'.session.journal ++ f'.store.journal
      (Metrics.gauges journal, Metrics.count .reloads journal,
        Metrics.count (.sweeps true) journal, Metrics.count (.sweeps false) journal)) =
      some (some ⟨0, 1, 1⟩, 3, 1, 1) := by
    decide +kernel
  obtain ⟨f', hafter, hsamples'⟩ := Option.map_eq_some_iff.1 hsamples
  simp only [Prod.mk.injEq] at hsamples'
  obtain ⟨hgauges, hreloads, hremoved, hmissed⟩ := hsamples'
  have hsilent : ∀ contents, (sweepingOnce contents).Silent := by
    intro contents
    refine .consult fun again => ?_
    cases again
    · exact .remember (.reload (.sweep fun _ => .sweep fun _ => .done))
    · exact .done
  have htame : ∀ step ∈ writtenSteps, step.Tame :=
    List.forall_mem_cons.2 ⟨.inr hsilent, List.forall_mem_cons.2 ⟨.inl rfl, by simp [Step.Tame]⟩⟩
  have hregistry : bareFollowing.session.registry.Tame := by
    intro attached hattached
    cases hattached
  obtain ⟨⟨deeds, hdoes⟩, hfollow⟩ :=
    samples_follow_deeds hregistry rfl (by decide +kernel) htame hafter
  have hjournal := interleaves_append f'.session.journal f'.store.journal
  obtain ⟨-, hpublished, hswept⟩ := hfollow deeds hdoes _ hjournal
  exact ⟨f', deeds, _, hafter, hdoes, hjournal, hgauges, hpublished ▸ hreloads,
    hswept true ▸ hremoved, hswept false ▸ hmissed⟩

end Following

end HostRegistry
