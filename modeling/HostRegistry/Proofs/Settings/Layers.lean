import HostRegistry.Proofs.Bytes
import HostRegistry.Proofs.Except
import HostRegistry.Proofs.Settings.Document
import HostRegistry.Proofs.Settings.Rules
import HostRegistry.Proofs.Settings.Values

/-!
# Settings in effect

A setting in effect is what the environment has for it, else what the file gives for it, else its
default. The first of these that cannot be used is the error: the file, the variable of the truth
value, the variable of the number, and at last the rules that the settings break.
-/

namespace HostRegistry

open Toml

namespace Setting

/-- The variable that a setting can be overridden by. -/
def overriddenBy? : Setting → Option String
  | dir => some "ROUTER_REPOSITORY_DIR"
  | watcherEnabled => some "CONFIG_FILE_WATCHER_ENABLED"
  | watcherIntervalMs => some "CONFIG_FILE_WATCHER_INTERVAL"
  | bindAddress => some "ROUTER_BIND_ADDRESS"
  | logLevel => some "ROUTER_LOG_LEVEL"
  | fileName | watcherDebounceMs | metricsEnabled | metricsAddress => none

/-- What the environment has for the setting. -/
def set? (x : Setting) (environment : Environment) : Option String :=
  x.overriddenBy?.bind environment

/-- The text spells a value of the setting. -/
def Spells : Setting → String → Value → Prop
  | bindAddress, text, v | dir, text, v | fileName, text, v | logLevel, text, v
  | metricsAddress, text, v => v = .text text
  | watcherEnabled, text, v | metricsEnabled, text, v =>
    ∃ b, Settings.SpellsFlag text b ∧ v = .flag b
  | watcherIntervalMs, text, v | watcherDebounceMs, text, v =>
    ∃ n : UInt64, Settings.SpellsNumber text n.toNat ∧ v = .number n

/-- The value that the environment has for the setting, or the one below it if it has none. -/
def Overrides (x : Setting) (environment : Environment) (below v : Value) : Prop :=
  match x.set? environment with
  | some text => x.Spells text v
  | none => v = below

end Setting

namespace Settings

variable {files : FileTree} {environment : Environment} {path : Option String}

/-! ## The file -/

/-- A document that settings can be read from. -/
structure Fits (doc : Table) : Prop where
  groups : HoldsGroups doc
  typed : ∀ (x : Setting) (item : Item), x.item? doc = some item → ∃ v, x.ofItem? item = some v

/-- The document under the environment; without a file it is empty. -/
inductive Source (files : FileTree) : Option String → Table → Prop
  | none : Source files none []
  | file {path text : String} {doc : Table} (hread : files.read path = .ok (Bytes.ofText text))
      (hparse : Toml.ofText? text = some doc) (hfits : Fits doc) : Source files (some path) doc

/-- The file cannot be read as text, or the text is no document for settings. -/
inductive FileFails (files : FileTree) : Option String → SettingsError → Prop
  | unreadable {path : String} {e : FileError} (hread : files.read path = .error e) :
      FileFails files (some path) (.unreadable path e.message)
  | notText {path : String} {contents : Bytes} (hread : files.read path = .ok contents)
      (hnot : ∀ text, Bytes.ofText text ≠ contents) :
      FileFails files (some path) (.unreadable path "stream did not contain valid UTF-8")
  | unparsable {path text : String} (hread : files.read path = .ok (Bytes.ofText text))
      (hnot : ∀ doc, Toml.ofText? text = some doc → ¬Fits doc) :
      FileFails files (some path) .unparsable

/-- The settings below the environment. -/
def base (files : FileTree) : Option String → Except SettingsError Settings
  | some path => ofFile files path
  | none => pure {}

theorem ofFile_of_read {path text : String} (hread : files.read path = .ok (Bytes.ofText text)) :
    ofFile files path =
      match ofText? text with
      | some s => .ok s
      | none => .error .unparsable := by
  cases hsettings : ofText? text <;>
    simp only [ofFile, hread, ofBytes, Bytes.toText?_ofText, hsettings]

theorem ofText?_of_parse {text : String} {doc : Table} (hparse : Toml.ofText? text = some doc) :
    ofText? text = ofItem? (.table .header doc) := by
  rw [ofText?, hparse]
  rfl

theorem fits_iff {doc : Table} : Fits doc ↔ ∃ s, ofItem? (.table .header doc) = some s := by
  rw [exists_ofItem?_iff]
  exact ⟨fun h => ⟨h.groups, h.typed⟩, fun h => ⟨h.1, h.2⟩⟩

/-- The settings of the document under the environment. -/
theorem base_of_source {doc : Table} (h : Source files path doc) :
    ∃ s, base files path = .ok s ∧ ∀ x : Setting, x.given? doc = some (s.value x) := by
  cases h with
  | none =>
    refine ⟨{}, rfl, fun x => ?_⟩
    cases x <;> rfl
  | @file path text doc hread hparse hfits =>
    obtain ⟨s, hs⟩ := fits_iff.1 hfits
    refine ⟨s, ?_, (ofItem?_eq_some_iff_given.1 hs).2⟩
    rw [base, ofFile_of_read hread, ofText?_of_parse hparse, hs]

theorem base_of_fails {e : SettingsError} (h : FileFails files path e) :
    base files path = .error e := by
  cases h with
  | unreadable hread => rw [base, ofFile, hread]
  | @notText path contents hread hnot =>
    have htext : Bytes.toText? contents = none := by
      rw [Option.eq_none_iff_forall_ne_some]
      exact fun text htext => hnot text (Bytes.ofText_eq_of_toText? htext)
    rw [base, ofFile, hread]
    simp only [ofBytes, htext]
  | @unparsable path text hread hnot =>
    have hsettings : ofText? text = none := by
      cases hparse : Toml.ofText? text with
      | none => rw [ofText?, hparse]; rfl
      | some doc =>
        rw [ofText?_of_parse hparse, Option.eq_none_iff_forall_ne_some]
        exact fun s hs => hnot doc hparse (fits_iff.2 ⟨s, hs⟩)
    rw [base, ofFile_of_read hread, hsettings]

theorem source_or_fails (files : FileTree) (path : Option String) :
    (∃ doc, Source files path doc) ∨ ∃ e, FileFails files path e := by
  cases path with
  | none => exact .inl ⟨[], .none⟩
  | some path =>
    cases hread : files.read path with
    | error e => exact .inr ⟨_, .unreadable hread⟩
    | ok contents =>
      by_cases htext : ∃ text, Bytes.ofText text = contents
      · obtain ⟨text, rfl⟩ := htext
        by_cases hdoc : ∃ doc, Toml.ofText? text = some doc ∧ Fits doc
        · obtain ⟨doc, hparse, hfits⟩ := hdoc
          exact .inl ⟨doc, .file hread hparse hfits⟩
        · exact .inr ⟨_, .unparsable hread fun doc hparse hfits => hdoc ⟨doc, hparse, hfits⟩⟩
      · exact .inr ⟨_, .notText hread fun text h => htext ⟨text, h⟩⟩

/-! ## The environment -/

/-- A variable does not spell a value of its setting. The truth value is looked at before the
number. -/
inductive VariableFails (environment : Environment) : SettingsError → Prop
  | flag {value : String} (hset : environment "CONFIG_FILE_WATCHER_ENABLED" = some value)
      (hnot : ∀ b, ¬SpellsFlag value b) :
      VariableFails environment (.environment "CONFIG_FILE_WATCHER_ENABLED" value)
  | number {value : String}
      (hflag : ∀ value, environment "CONFIG_FILE_WATCHER_ENABLED" = some value →
        ∃ b, SpellsFlag value b)
      (hset : environment "CONFIG_FILE_WATCHER_INTERVAL" = some value)
      (hnot : ∀ n < 2 ^ 64, ¬SpellsNumber value n) :
      VariableFails environment (.environment "CONFIG_FILE_WATCHER_INTERVAL" value)

theorem overridden_eq_ok_iff {α : Type} {name : String} {read : String → Option α}
    {current a : α} :
    overridden environment name read current = .ok a ↔
      match environment name with
      | some value => read value = some a
      | none => a = current := by
  rw [overridden]
  cases environment name with
  | none => exact ⟨fun h => by cases h; rfl, fun h => by rw [h]⟩
  | some value => cases hread : read value <;> simp [hread]

theorem overridden_eq_error_iff {α : Type} {name : String} {read : String → Option α}
    {current : α} {e : SettingsError} :
    overridden environment name read current = .error e ↔
      ∃ value, environment name = some value ∧ read value = none ∧
        e = .environment name value := by
  rw [overridden]
  cases environment name with
  | none => simp
  | some value => cases hread : read value <;> simp [hread, eq_comm]

theorem withEnvironment_eq (environment : Environment) (s : Settings) :
    withEnvironment environment s =
      overridden environment "CONFIG_FILE_WATCHER_ENABLED" readFlag? s.repository.watcherEnabled >>=
        fun watcherEnabled =>
      overridden environment "CONFIG_FILE_WATCHER_INTERVAL" readUInt64?
          s.repository.watcherIntervalMs >>= fun watcherIntervalMs =>
      .ok {
        listener := ⟨(environment "ROUTER_BIND_ADDRESS").getD s.listener.bindAddress⟩
        repository := { s.repository with
          dir := (environment "ROUTER_REPOSITORY_DIR").getD s.repository.dir
          watcherEnabled, watcherIntervalMs }
        report := { s.report with
          logLevel := (environment "ROUTER_LOG_LEVEL").getD s.report.logLevel } } := rfl

theorem withEnvironment_eq_error_iff {below : Settings} {e : SettingsError} :
    withEnvironment environment below = .error e ↔ VariableFails environment e := by
  rw [withEnvironment_eq, bind_eq_error_iff]
  constructor
  · rintro (hflag | ⟨enabled, hflag, hrest⟩)
    · obtain ⟨value, hset, hread, rfl⟩ := overridden_eq_error_iff.1 hflag
      exact .flag hset (readFlag?_eq_none_iff.1 hread)
    · rcases bind_eq_error_iff.1 hrest with hnumber | ⟨_, _, hdone⟩
      · obtain ⟨value, hset, hread, rfl⟩ := overridden_eq_error_iff.1 hnumber
        refine .number (fun value' hvalue' => ⟨enabled, ?_⟩) hset (readUInt64?_eq_none_iff.1 hread)
        rw [overridden_eq_ok_iff, hvalue'] at hflag
        exact readFlag?_eq_some_iff.1 hflag
      · cases hdone
  · intro h
    cases h with
    | flag hset hnot =>
      exact .inl (overridden_eq_error_iff.2 ⟨_, hset, readFlag?_eq_none_iff.2 hnot, rfl⟩)
    | number hflag hset hnot =>
      have henabled : ∃ enabled, overridden environment "CONFIG_FILE_WATCHER_ENABLED" readFlag?
          below.repository.watcherEnabled = .ok enabled := by
        simp only [overridden_eq_ok_iff]
        cases hvalue : environment "CONFIG_FILE_WATCHER_ENABLED" with
        | none => exact ⟨_, rfl⟩
        | some value =>
          obtain ⟨b, hb⟩ := hflag value hvalue
          exact ⟨b, readFlag?_eq_some_iff.2 hb⟩
      obtain ⟨enabled, henabled⟩ := henabled
      refine .inr ⟨enabled, henabled, bind_eq_error_iff.2 (.inl ?_)⟩
      exact overridden_eq_error_iff.2 ⟨_, hset, readUInt64?_eq_none_iff.2 hnot, rfl⟩

theorem overrides_text {x : Setting} {name : String} (hname : x.overriddenBy? = some name)
    (hspells : ∀ text v, x.Spells text v ↔ v = .text text) {below v : String} :
    x.Overrides environment (.text below) (.text v) ↔ v = (environment name).getD below := by
  rw [Setting.Overrides, Setting.set?, hname, Option.bind_some]
  cases environment name with
  | none => exact Setting.Value.text.injEq _ _ ▸ Iff.rfl
  | some text =>
    simp only [hspells, Setting.Value.text.injEq]
    rfl

theorem overrides_flag {below v : Bool} :
    Setting.watcherEnabled.Overrides environment (.flag below) (.flag v) ↔
      overridden environment "CONFIG_FILE_WATCHER_ENABLED" readFlag? below = .ok v := by
  rw [overridden_eq_ok_iff, Setting.Overrides, Setting.set?, Setting.overriddenBy?,
    Option.bind_some]
  cases environment "CONFIG_FILE_WATCHER_ENABLED" with
  | none => simp
  | some text => simp [Setting.Spells, readFlag?_eq_some_iff]

theorem overrides_number {below v : UInt64} :
    Setting.watcherIntervalMs.Overrides environment (.number below) (.number v) ↔
      overridden environment "CONFIG_FILE_WATCHER_INTERVAL" readUInt64? below = .ok v := by
  rw [overridden_eq_ok_iff, Setting.Overrides, Setting.set?, Setting.overriddenBy?,
    Option.bind_some]
  cases environment "CONFIG_FILE_WATCHER_INTERVAL" with
  | none => simp
  | some text => simp [Setting.Spells, readUInt64?_eq_some_iff]

theorem withEnvironment_eq_ok_iff {below s : Settings} :
    withEnvironment environment below = .ok s ↔
      ∀ x : Setting, x.Overrides environment (below.value x) (s.value x) := by
  rw [withEnvironment_eq]
  simp only [bind_eq_ok_iff]
  constructor
  · rintro ⟨enabled, hflag, interval, hnumber, hs⟩ x
    cases hs
    cases x
    · exact (overrides_text rfl fun _ _ => Iff.rfl).2 rfl
    · exact (overrides_text rfl fun _ _ => Iff.rfl).2 rfl
    · rfl
    · exact overrides_flag.2 hflag
    · exact overrides_number.2 hnumber
    · rfl
    · exact (overrides_text rfl fun _ _ => Iff.rfl).2 rfl
    · rfl
    · rfl
  · intro h
    refine ⟨s.repository.watcherEnabled, overrides_flag.1 (h .watcherEnabled),
      s.repository.watcherIntervalMs, overrides_number.1 (h .watcherIntervalMs),
      congrArg Except.ok (ext_value fun x => ?_)⟩
    have haddress := (overrides_text rfl fun _ _ => Iff.rfl).1 (h .bindAddress)
    have hdir := (overrides_text rfl fun _ _ => Iff.rfl).1 (h .dir)
    have hlevel := (overrides_text rfl fun _ _ => Iff.rfl).1 (h .logLevel)
    cases x
    · exact congrArg Setting.Value.text haddress.symm
    · exact congrArg Setting.Value.text hdir.symm
    · exact (h .fileName).symm
    · rfl
    · rfl
    · exact (h .watcherDebounceMs).symm
    · exact congrArg Setting.Value.text hlevel.symm
    · exact (h .metricsEnabled).symm
    · exact (h .metricsAddress).symm

/-! ## All layers -/

/-- Each setting is what the environment has for it, else what the document gives for it, else its
default. -/
def Layered (environment : Environment) (doc : Table) (s : Settings) : Prop :=
  ∀ x : Setting,
    match x.set? environment with
    | some text => x.Spells text (s.value x)
    | none => x.given? doc = some (s.value x)

/-- What comes of a file, if one is named, and an environment. -/
inductive Yields (files : FileTree) (environment : Environment) (path : Option String) :
    Except SettingsError Settings → Prop
  | unusableFile {e : SettingsError} (hfile : FileFails files path e) :
      Yields files environment path (.error e)
  | unusableVariable {doc : Table} {e : SettingsError} (hsource : Source files path doc)
      (hvariable : VariableFails environment e) : Yields files environment path (.error e)
  | invalid {doc : Table} {s : Settings} (hsource : Source files path doc)
      (hlayered : Layered environment doc s) (hbroken : ∃ rule : Rule, rule.Broken s) :
      Yields files environment path
        (.error (.invalid ((Rule.all.filter (Rule.Broken s)).map (Rule.report s))))
  | valid {doc : Table} {s : Settings} (hsource : Source files path doc)
      (hlayered : Layered environment doc s) (hkept : ∀ rule : Rule, ¬rule.Broken s) :
      Yields files environment path (.ok s)

theorem layered_iff {doc : Table} {below s : Settings}
    (hgiven : ∀ x : Setting, x.given? doc = some (below.value x)) :
    Layered environment doc s ↔
      ∀ x : Setting, x.Overrides environment (below.value x) (s.value x) := by
  refine forall_congr' fun x => ?_
  rw [Setting.Overrides]
  cases x.set? environment with
  | none => rw [hgiven, Option.some.injEq, eq_comm]
  | some text => exact Iff.rfl

theorem checked_of_broken {s : Settings} (h : ∃ rule : Rule, rule.Broken s) :
    checked s = .error (.invalid ((Rule.all.filter (Rule.Broken s)).map (Rule.report s))) := by
  obtain ⟨rule, hrule⟩ := h
  have hmem : rule.report s ∈ (Rule.all.filter (Rule.Broken s)).map (Rule.report s) :=
    List.mem_map_of_mem (List.mem_filter.2 ⟨rule.mem_all, decide_eq_true hrule⟩)
  rw [checked, violations_eq]
  split
  next hnone => rw [hnone] at hmem; cases hmem
  next => rfl

theorem checked_of_kept {s : Settings} (h : ∀ rule : Rule, ¬rule.Broken s) :
    checked s = .ok s := by
  have hnone : Rule.all.filter (Rule.Broken s) = [] :=
    List.filter_eq_nil_iff.2 fun rule _ hrule => h rule (of_decide_eq_true hrule)
  rw [checked, violations_eq, hnone]
  rfl

theorem effective_eq (files : FileTree) (path : Option String) (environment : Environment) :
    effective files path environment =
      base files path >>= fun below => withEnvironment environment below >>= checked := by
  cases path <;> rfl

theorem effective_of_fails {e : SettingsError} (h : FileFails files path e) :
    effective files path environment = .error e := by
  rw [effective_eq, base_of_fails h]
  rfl

theorem effective_of_variable {doc : Table} {e : SettingsError} (hsource : Source files path doc)
    (h : VariableFails environment e) : effective files path environment = .error e := by
  obtain ⟨below, hbase, -⟩ := base_of_source hsource
  rw [effective_eq, hbase]
  show withEnvironment environment below >>= checked = _
  rw [withEnvironment_eq_error_iff.2 h]
  rfl

/-- Settings that are layered are checked and nothing else. -/
theorem effective_of_layered {doc : Table} {s : Settings} (hsource : Source files path doc)
    (h : Layered environment doc s) : effective files path environment = checked s := by
  obtain ⟨below, hbase, hgiven⟩ := base_of_source hsource
  rw [effective_eq, hbase]
  show withEnvironment environment below >>= checked = _
  rw [withEnvironment_eq_ok_iff.2 ((layered_iff hgiven).1 h)]
  rfl

/-- Over a document, the settings can be layered unless a variable fails. -/
theorem layered_or_fails {doc : Table} (hsource : Source files path doc)
    (environment : Environment) :
    (∃ s, Layered environment doc s) ∨ ∃ e, VariableFails environment e := by
  obtain ⟨below, -, hgiven⟩ := base_of_source hsource
  cases henvironment : withEnvironment environment below with
  | error e => exact .inr ⟨e, withEnvironment_eq_error_iff.1 henvironment⟩
  | ok s => exact .inl ⟨s, (layered_iff hgiven).2 (withEnvironment_eq_ok_iff.1 henvironment)⟩

/-- Loading the settings yields the error of the file, of a variable or of the broken rules, in this
order of precedence, and otherwise the layered settings; nothing else comes of it. -/
theorem effective_eq_iff {result : Except SettingsError Settings} :
    effective files path environment = result ↔ Yields files environment path result := by
  constructor
  · rintro rfl
    rcases source_or_fails files path with ⟨doc, hsource⟩ | ⟨e, hfails⟩
    · rcases layered_or_fails hsource environment with ⟨s, hlayered⟩ | ⟨e, hvariable⟩
      · rw [effective_of_layered hsource hlayered]
        by_cases hbroken : ∃ rule : Rule, rule.Broken s
        · rw [checked_of_broken hbroken]
          exact .invalid hsource hlayered hbroken
        · have hkept : ∀ rule : Rule, ¬rule.Broken s := fun rule h => hbroken ⟨rule, h⟩
          rw [checked_of_kept hkept]
          exact .valid hsource hlayered hkept
      · rw [effective_of_variable hsource hvariable]
        exact .unusableVariable hsource hvariable
    · rw [effective_of_fails hfails]
      exact .unusableFile hfails
  · intro h
    cases h with
    | unusableFile hfile => exact effective_of_fails hfile
    | unusableVariable hsource hvariable => exact effective_of_variable hsource hvariable
    | invalid hsource hlayered hbroken =>
      exact (effective_of_layered hsource hlayered).trans (checked_of_broken hbroken)
    | valid hsource hlayered hkept =>
      exact (effective_of_layered hsource hlayered).trans (checked_of_kept hkept)

/-- A file that names a directory and an interval that is not allowed. -/
def intervalFile : FileTree :=
  FileTree.empty.set ["work", "router.toml"]
    (.file (Bytes.ofText "[repository]\ndir = \"d\"\nwatcher_interval_ms = 0\n"))

/-- Another interval, and a level for the log. -/
def overriding (level : Option String) : Environment := fun name =>
  if name = "CONFIG_FILE_WATCHER_INTERVAL" then some " +250 "
  else if name = "ROUTER_LOG_LEVEL" then level
  else none

theorem effective_intervalFile :
    effective intervalFile (some "router.toml") (overriding none) =
        .ok { repository := { dir := "d", watcherIntervalMs := 250 } } ∧
      Yields intervalFile (overriding none) (some "router.toml")
        (.ok { repository := { dir := "d", watcherIntervalMs := 250 } }) ∧
      effective intervalFile (some "router.toml") (overriding (some "loud")) =
        .error (.invalid [.logLevel "loud"]) ∧
      Yields intervalFile (overriding (some "loud")) (some "router.toml")
        (.error (.invalid [.logLevel "loud"])) ∧
      effective intervalFile (some "router.toml") (fun _ => none) =
        .error (.invalid [.watcherInterval]) ∧
      Yields intervalFile (fun _ => none) (some "router.toml")
        (.error (.invalid [.watcherInterval])) := by
  have hkept : effective intervalFile (some "router.toml") (overriding none) =
      .ok { repository := { dir := "d", watcherIntervalMs := 250 } } := by decide +kernel
  have hlevel : effective intervalFile (some "router.toml") (overriding (some "loud")) =
      .error (.invalid [.logLevel "loud"]) := by decide +kernel
  have hinterval : effective intervalFile (some "router.toml") (fun _ => none) =
      .error (.invalid [.watcherInterval]) := by decide +kernel
  exact ⟨hkept, effective_eq_iff.1 hkept, hlevel, effective_eq_iff.1 hlevel, hinterval,
    effective_eq_iff.1 hinterval⟩

end Settings

end HostRegistry
