import HostRegistry.Proofs.Snapshot.InfoIndex

/-!
# Infos of standing deployments

Hosts are listed once for every deployment, but an info is held once, however many deployments of it
stand. So the info is gone after the first of them is taken away, although the others stand: an info
is found exactly when one of its deployments stands and none was taken away since the latest of them
was registered.
-/

namespace HostRegistry

structure Deployment where
  info : ContainerInfo
  server : String
  host : String
deriving DecidableEq, Repr

namespace Deployment

inductive Step
  | register (d : Deployment)
  | unregister (d : Deployment)
deriving DecidableEq, Repr

def Step.deployment : Step → Deployment
  | register d => d
  | unregister d => d

def Step.apply : Snapshot → Step → Snapshot
  | s, register d => s.register d.info d.server d.host
  | s, unregister d => s.unregister d.info d.server d.host

/-- The contents of the registry after the steps. -/
def contents (steps : List Step) : Snapshot := steps.foldl Step.apply .empty

/-- What a step does to the deployments that stand. -/
def Step.adjust : List Deployment → Step → List Deployment
  | standing, register d => d :: standing
  | standing, unregister d => standing.erase d

/-- The deployments that stand after the steps; one that was registered twice stands twice. -/
def standing (steps : List Step) : List Deployment := steps.foldl Step.adjust []

/-- Every deployment that is taken away stands at that time. -/
inductive Run : List Step → Prop
  | start : Run []
  | register {steps : List Step} (d : Deployment) (h : Run steps) : Run (steps ++ [.register d])
  | unregister {steps : List Step} (d : Deployment) (h : Run steps) (stands : d ∈ standing steps) :
    Run (steps ++ [.unregister d])

/-- Some deployment of the info stands. -/
def Stands (info : ContainerInfo) (steps : List Step) : Prop :=
  ∃ d ∈ standing steps, d.info = info

instance (info : ContainerInfo) (steps : List Step) : Decidable (Stands info steps) :=
  inferInstanceAs (Decidable (∃ d ∈ standing steps, d.info = info))

/-- The latest step that deals with the info. -/
def latest? (info : ContainerInfo) (steps : List Step) : Option Step :=
  (steps.filter fun step => step.deployment.info = info).getLast?

/-- The latest step that deals with the info took a deployment of it away. -/
def Withdrawn (info : ContainerInfo) (steps : List Step) : Prop :=
  ∃ d, latest? info steps = some (.unregister d)

variable {info : ContainerInfo} {steps : List Step}

/-! ## One step -/

theorem contents_concat (steps : List Step) (step : Step) :
    contents (steps ++ [step]) = step.apply (contents steps) := by
  simp [contents]

theorem standing_concat (steps : List Step) (step : Step) :
    standing (steps ++ [step]) = step.adjust (standing steps) := by
  simp [standing]

theorem latest?_concat_self (step : Step) (h : step.deployment.info = info) :
    latest? info (steps ++ [step]) = some step := by
  simp [latest?, h]

theorem latest?_concat_of_ne (step : Step) (h : step.deployment.info ≠ info) :
    latest? info (steps ++ [step]) = latest? info steps := by
  simp [latest?, h]

/-! ## Whole runs -/

/-- An info is under its keys when the latest step that deals with it registered it. -/
theorem lists_contents (h : Run steps) {key : String} :
    InfoIndex.Lists (contents steps).infoIndex key info ↔
      key ∈ info.keys ∧ ∃ d, latest? info steps = some (.register d) := by
  induction h with
  | start =>
    refine iff_of_false (InfoIndex.not_lists_empty key info) ?_
    rintro ⟨-, d, hd⟩
    cases hd
  | @register steps d h ih =>
    rw [contents_concat]
    refine Snapshot.lists_addInfo.trans ?_
    by_cases hinfo : d.info = info
    · subst hinfo
      have hlatest : latest? d.info (steps ++ [.register d]) = some (.register d) :=
        latest?_concat_self _ rfl
      refine ⟨fun hlists => ⟨?_, d, hlatest⟩, fun ⟨hkey, _⟩ => .inl ⟨hkey, rfl⟩⟩
      exact hlists.elim (·.1) fun hlists => (ih.1 hlists).1
    · rw [latest?_concat_of_ne (.register d) hinfo, ← ih]
      exact or_iff_right fun h => hinfo h.2.symm
  | @unregister steps d h stands ih =>
    rw [contents_concat]
    refine Snapshot.lists_removeInfo.trans ?_
    by_cases hinfo : d.info = info
    · subst hinfo
      have hlatest : latest? d.info (steps ++ [.unregister d]) = some (.unregister d) :=
        latest?_concat_self _ rfl
      rw [hlatest]
      refine iff_of_false (fun ⟨hlists, hnot⟩ => hnot ⟨(ih.1 hlists).1, rfl⟩) ?_
      rintro ⟨-, d', hd'⟩
      cases hd'
    · rw [latest?_concat_of_ne (.unregister d) hinfo, ← ih]
      exact and_iff_left fun h => hinfo h.2.symm

/-- A deployment stands if registering it was the latest thing done to its info. -/
theorem mem_standing_of_latest? (h : Run steps) {d : Deployment} (hinfo : d.info = info)
    (hlatest : latest? info steps = some (.register d)) : d ∈ standing steps := by
  induction h with
  | start => cases hlatest
  | @register steps d' h ih =>
    rw [standing_concat]
    by_cases hinfo' : d'.info = info
    · rw [latest?_concat_self (.register d') hinfo'] at hlatest
      cases hlatest
      exact .head _
    · rw [latest?_concat_of_ne (.register d') hinfo'] at hlatest
      exact .tail _ (ih hlatest)
  | @unregister steps d' h stands ih =>
    rw [standing_concat]
    by_cases hinfo' : d'.info = info
    · rw [latest?_concat_self (.unregister d') hinfo'] at hlatest
      cases hlatest
    · rw [latest?_concat_of_ne (.unregister d') hinfo'] at hlatest
      have hne : d ≠ d' := fun heq => hinfo' (heq ▸ hinfo)
      exact (List.mem_erase_of_ne hne).2 (ih hlatest)

/-- What the latest step about an info says is about that info. -/
theorem info_of_latest? {step : Step} (h : latest? info steps = some step) :
    step.deployment.info = info := by
  have hmem := List.mem_of_getLast? h
  exact of_decide_eq_true (List.mem_filter.1 hmem).2

/-- An info of which a deployment stands was dealt with by some step. -/
theorem latest?_of_stands (h : Run steps) (hstands : Stands info steps) :
    ∃ step, latest? info steps = some step := by
  obtain ⟨d, hd, hinfo⟩ := hstands
  induction h with
  | start => cases hd
  | @register steps d' h ih =>
    by_cases hinfo' : d'.info = info
    · exact ⟨_, latest?_concat_self (.register d') hinfo'⟩
    · rw [latest?_concat_of_ne (.register d') hinfo']
      rw [standing_concat] at hd
      rcases List.mem_cons.1 hd with heq | hd
      · exact (hinfo' (heq ▸ hinfo)).elim
      · exact ih hd
  | @unregister steps d' h stands ih =>
    by_cases hinfo' : d'.info = info
    · exact ⟨_, latest?_concat_self (.unregister d') hinfo'⟩
    · rw [latest?_concat_of_ne (.unregister d') hinfo']
      rw [standing_concat] at hd
      exact ih (List.mem_of_mem_erase hd)

/-- An info is under its keys when one of its deployments stands and it was not withdrawn. -/
theorem lists_contents_iff_stands (h : Run steps) {key : String} (hkey : key ∈ info.keys) :
    InfoIndex.Lists (contents steps).infoIndex key info ↔
      Stands info steps ∧ ¬Withdrawn info steps := by
  rw [lists_contents h, and_iff_right hkey]
  constructor
  · rintro ⟨d, hlatest⟩
    have hinfo : d.info = info := info_of_latest? hlatest
    refine ⟨⟨d, mem_standing_of_latest? h hinfo hlatest, hinfo⟩, ?_⟩
    rintro ⟨d', hlatest'⟩
    cases hlatest.symm.trans hlatest'
  · rintro ⟨hstands, hnot⟩
    obtain ⟨step, hlatest⟩ := latest?_of_stands h hstands
    cases step with
    | register d => exact ⟨d, hlatest⟩
    | unregister d => exact (hnot ⟨d, hlatest⟩).elim

/-- Under its id and under its alias, an info is found as long as one of its deployments stands and
it was not withdrawn. So it is found exactly as long as one of them stands, except from the time it
is withdrawn beside another standing one until it is registered again. -/
theorem infos_iff_stands (h : Run steps) (info : ContainerInfo) :
    (∀ key ∈ [info.containerId, info.aliasName],
      (info ∈ (contents steps).infos key ↔ Stands info steps ∧ ¬Withdrawn info steps)) ∧
    ((∀ key ∈ [info.containerId, info.aliasName],
      (info ∈ (contents steps).infos key ↔ Stands info steps)) ↔
        ¬(Stands info steps ∧ Withdrawn info steps)) := by
  have hlisted : ∀ key ∈ [info.containerId, info.aliasName],
      (info ∈ (contents steps).infos key ↔ Stands info steps ∧ ¬Withdrawn info steps) := by
    intro key hkey
    have hkeys : key ∈ info.keys := ContainerInfo.mem_keys_iff.2 (by simpa using hkey)
    rw [Snapshot.mem_infos_iff]
    exact lists_contents_iff_stands h hkeys
  refine ⟨hlisted, ?_, ?_⟩
  · rintro hall ⟨hstands, hwithdrawn⟩
    have hid := (hall info.containerId (.head _)).2 hstands
    exact ((hlisted info.containerId (.head _)).1 hid).2 hwithdrawn
  · intro hnot key hkey
    rw [hlisted key hkey]
    exact and_iff_left_of_imp fun hstands hwithdrawn => hnot ⟨hstands, hwithdrawn⟩

/-- A container is deployed on two servers and taken from the first one. -/
def fromFirstServer : List Step :=
  [.register ⟨⟨"c", "a", ⟨"g", "a", "v"⟩⟩, "s1", "http://1"⟩,
    .register ⟨⟨"c", "a", ⟨"g", "a", "v"⟩⟩, "s2", "http://2"⟩,
    .unregister ⟨⟨"c", "a", ⟨"g", "a", "v"⟩⟩, "s1", "http://1"⟩]

theorem run_fromFirstServer : Run fromFirstServer :=
  .unregister _ (.register _ (.register _ .start)) (by decide)

theorem infos_iff_stands_fromFirstServer :
    Run fromFirstServer ∧ ∀ key ∈ ["c", "a"],
      (⟨"c", "a", ⟨"g", "a", "v"⟩⟩ ∈ (contents fromFirstServer).infos key ↔
        Stands ⟨"c", "a", ⟨"g", "a", "v"⟩⟩ fromFirstServer ∧
          ¬Withdrawn ⟨"c", "a", ⟨"g", "a", "v"⟩⟩ fromFirstServer) :=
  ⟨run_fromFirstServer, (infos_iff_stands run_fromFirstServer ⟨"c", "a", ⟨"g", "a", "v"⟩⟩).1⟩

/-- The second server hosts the container still, but nothing is known of it any more. -/
theorem not_infos_fromFirstServer :
    Run fromFirstServer ∧ Stands ⟨"c", "a", ⟨"g", "a", "v"⟩⟩ fromFirstServer ∧
      (contents fromFirstServer).hostsOfServer "s2" = ["http://2"] ∧
      ∀ key ∈ ["c", "a"], (contents fromFirstServer).infos key = [] :=
  ⟨run_fromFirstServer, by decide, by decide, by decide⟩

end Deployment

end HostRegistry
