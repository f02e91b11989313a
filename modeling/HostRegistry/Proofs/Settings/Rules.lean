import HostRegistry.Proofs.Path

/-!
# The rules of settings

What is reported about settings are the rules that they break: each of those once, in the order of
the rules, and no other.
-/

namespace HostRegistry.Settings

inductive Rule
  | bindAddress
  | fileName
  | watcherInterval
  | logLevel
  | metricsAddress
deriving DecidableEq

namespace Rule

def all : List Rule := [bindAddress, fileName, watcherInterval, logLevel, metricsAddress]

/-- The setting that the rule is about. -/
def field : Rule → String
  | bindAddress => "listener.bind_address"
  | fileName => "repository.file_name"
  | watcherInterval => "repository.watcher_interval_ms"
  | logLevel => "observability.log_level"
  | metricsAddress => "observability.metrics_address"

/-- The settings do not keep the rule. The address of the metrics matters only if there are any. -/
def Broken (s : Settings) : Rule → Prop
  | bindAddress => ∀ address, SocketAddress.ofText? s.listener.bindAddress ≠ some address
  | fileName => s.repository.fileName ∈ ["", ".", ".."] ∨ '/' ∈ s.repository.fileName.toList
  | watcherInterval => s.repository.watcherIntervalMs = 0
  | logLevel => s.report.logLevel.toLower ∉ ["trace", "debug", "info", "warn", "error"]
  | metricsAddress => s.report.metricsEnabled = true ∧
      ∀ address, SocketAddress.ofText? s.report.metricsAddress ≠ some address

/-- What is reported about settings that break the rule. -/
def report (s : Settings) : Rule → Violation
  | bindAddress => .bindAddress s.listener.bindAddress
  | fileName =>
    if s.repository.fileName = "" then .emptyFileName else .fileName s.repository.fileName
  | watcherInterval => .watcherInterval
  | logLevel => .logLevel s.report.logLevel
  | metricsAddress => .metricsAddress s.report.metricsAddress

/-- A report names the setting that its rule is about. -/
theorem field_report (s : Settings) (rule : Rule) : (rule.report s).field = rule.field := by
  cases rule with
  | fileName =>
    rw [report]
    split <;> rfl
  | bindAddress | watcherInterval | logLevel | metricsAddress => rfl

theorem mem_all (rule : Rule) : rule ∈ all := by
  cases rule <;> decide

end Rule

theorem isSocketAddress_eq_false_iff {s : String} :
    isSocketAddress s = false ↔ ∀ address, SocketAddress.ofText? s ≠ some address := by
  rw [isSocketAddress, Option.isSome_eq_false_iff, Option.isNone_iff_eq_none,
    Option.eq_none_iff_forall_ne_some]

instance Rule.decidableBroken (s : Settings) : (rule : Rule) → Decidable (rule.Broken s)
  | bindAddress => decidable_of_iff _ isSocketAddress_eq_false_iff
  | fileName => inferInstanceAs (Decidable (_ ∨ _))
  | watcherInterval => inferInstanceAs (Decidable (_ = _))
  | logLevel => inferInstanceAs (Decidable (¬_))
  | metricsAddress => decidable_of_iff
      (s.report.metricsEnabled = true ∧ isSocketAddress s.report.metricsAddress = false)
      (and_congr_right' isSocketAddress_eq_false_iff)

theorem checkFileName_eq (s : Settings) :
    checkFileName s.repository.fileName =
      if Rule.fileName.Broken s then [Rule.fileName.report s] else [] := by
  have hplain : isPlainName s.repository.fileName = true ↔ ¬Rule.fileName.Broken s := by
    rw [Path.isPlainName_iff, Rule.Broken, not_or]
  unfold checkFileName
  rw [Rule.report]
  by_cases hempty : s.repository.fileName = ""
  · have hbroken : Rule.fileName.Broken s := .inl (by simp [hempty])
    rw [if_pos hempty, if_pos hbroken, if_pos hempty]
  · rw [if_neg hempty, if_neg hempty]
    by_cases hbroken : Rule.fileName.Broken s
    · rw [if_neg fun h => hplain.1 h hbroken, if_pos hbroken]
    · rw [if_pos (hplain.2 hbroken), if_neg hbroken]

theorem map_filter_cons {α β : Type} (p : α → Prop) [DecidablePred p] (f : α → β) (a : α)
    (rest : List α) :
    ((a :: rest).filter p).map f = (if p a then [f a] else []) ++ (rest.filter p).map f := by
  rw [List.filter_cons]
  by_cases ha : p a
  · rw [if_pos (decide_eq_true ha), if_pos ha]
    rfl
  · rw [if_neg (by simp [ha]), if_neg ha]
    rfl

theorem unless_eq {α : Type} {kept : Bool} {broken : Prop} [Decidable broken]
    (h : kept = false ↔ broken) (report : List α) :
    (if kept then [] else report) = if broken then report else [] := by
  cases kept with
  | false => rw [if_pos (h.1 rfl), if_neg Bool.false_ne_true]
  | true => rw [if_pos rfl, if_neg fun hbroken => by cases h.2 hbroken]

/-- The reports are those of the broken rules, each once and in the order of the rules. -/
theorem violations_eq (s : Settings) :
    s.violations = (Rule.all.filter (Rule.Broken s)).map (Rule.report s) := by
  have hbind : isSocketAddress s.listener.bindAddress = false ↔ Rule.bindAddress.Broken s :=
    isSocketAddress_eq_false_iff
  have hlevel : logLevels.contains s.report.logLevel.toLower = false ↔ Rule.logLevel.Broken s := by
    simp [Rule.Broken, logLevels]
  have hmetrics : (if s.report.metricsEnabled && !isSocketAddress s.report.metricsAddress then
      [.metricsAddress s.report.metricsAddress] else []) =
      if Rule.metricsAddress.Broken s then [Rule.metricsAddress.report s] else [] := by
    refine if_congr ?_ rfl rfl
    rw [Bool.and_eq_true, Bool.not_eq_true', isSocketAddress_eq_false_iff, Rule.Broken]
  have hinterval : (if s.repository.watcherIntervalMs = 0 then [.watcherInterval] else []) =
      if Rule.watcherInterval.Broken s then [Rule.watcherInterval.report s] else [] := rfl
  unfold violations
  rw [unless_eq hbind, checkFileName_eq, hinterval, unless_eq hlevel, hmetrics, Rule.all]
  simp only [map_filter_cons, List.filter_nil, List.map_nil, List.append_nil, List.append_assoc]
  rfl

/-- Nothing is reported about a setting exactly if its rule is kept. -/
theorem field_ne_iff (s : Settings) (rule : Rule) :
    (∀ v ∈ s.violations, v.field ≠ rule.field) ↔ ¬rule.Broken s := by
  rw [violations_eq]
  constructor
  · intro hall hbroken
    refine hall (rule.report s) ?_ (Rule.field_report s rule)
    exact List.mem_map_of_mem (List.mem_filter.2 ⟨Rule.mem_all rule, decide_eq_true hbroken⟩)
  · rintro hkept _ hv hfield
    obtain ⟨other, hother, rfl⟩ := List.mem_map.1 hv
    rw [Rule.field_report] at hfield
    have hsame : other = rule := by
      cases other <;> cases rule <;> first | rfl | exact absurd hfield (by decide)
    rw [hsame] at hother
    exact hkept (of_decide_eq_true (List.mem_filter.1 hother).2)

end HostRegistry.Settings
