import HostRegistry.Settings.Document

/-!
# What a document gives

Each of the nine settings has a place of its own in a document: a key in the table of its group, or
its number if the group is an array. A document gives settings exactly when its groups are tables or
arrays and each item in the place of a setting has the type of the setting; then the settings are
those items, and the defaults where there are none.
-/

namespace HostRegistry

open Toml

inductive SettingGroup
  | listener
  | repository
  | report

def SettingGroup.name : SettingGroup → String
  | listener => "listener"
  | repository => "repository"
  | report => "observability"

inductive Setting
  | bindAddress
  | dir
  | fileName
  | watcherEnabled
  | watcherIntervalMs
  | watcherDebounceMs
  | logLevel
  | metricsEnabled
  | metricsAddress

namespace Setting

inductive Value
  | text (s : String)
  | flag (b : Bool)
  | number (n : UInt64)
deriving DecidableEq

def group : Setting → SettingGroup
  | bindAddress => .listener
  | dir | fileName | watcherEnabled | watcherIntervalMs | watcherDebounceMs => .repository
  | logLevel | metricsEnabled | metricsAddress => .report

def key : Setting → String
  | bindAddress => "bind_address"
  | dir => "dir"
  | fileName => "file_name"
  | watcherEnabled => "watcher_enabled"
  | watcherIntervalMs => "watcher_interval_ms"
  | watcherDebounceMs => "watcher_debounce_ms"
  | logLevel => "log_level"
  | metricsEnabled => "metrics_enabled"
  | metricsAddress => "metrics_address"

/-- The number of the setting in its group. -/
def place : Setting → Nat
  | bindAddress | dir | logLevel => 0
  | fileName | metricsEnabled => 1
  | watcherEnabled | metricsAddress => 2
  | watcherIntervalMs => 3
  | watcherDebounceMs => 4

/-- The value that an item of the type of the setting stands for. -/
def ofItem? : Setting → Item → Option Value
  | bindAddress, item | dir, item | fileName, item | logLevel, item | metricsAddress, item =>
    item.asText.map .text
  | watcherEnabled, item | metricsEnabled, item => item.asBoolean.map .flag
  | watcherIntervalMs, item | watcherDebounceMs, item => item.asUInt64.map .number

end Setting

namespace Settings

def value (s : Settings) : Setting → Setting.Value
  | .bindAddress => .text s.listener.bindAddress
  | .dir => .text s.repository.dir
  | .fileName => .text s.repository.fileName
  | .watcherEnabled => .flag s.repository.watcherEnabled
  | .watcherIntervalMs => .number s.repository.watcherIntervalMs
  | .watcherDebounceMs => .number s.repository.watcherDebounceMs
  | .logLevel => .text s.report.logLevel
  | .metricsEnabled => .flag s.report.metricsEnabled
  | .metricsAddress => .text s.report.metricsAddress

/-- Settings are what the nine of them are. -/
theorem ext_value {s s' : Settings} (h : ∀ x, s.value x = s'.value x) : s = s' := by
  obtain ⟨⟨_⟩, ⟨_, _, _, _, _⟩, ⟨_, _, _⟩⟩ := s
  obtain ⟨⟨_⟩, ⟨_, _, _, _, _⟩, ⟨_, _, _⟩⟩ := s'
  cases h .bindAddress
  cases h .dir
  cases h .fileName
  cases h .watcherEnabled
  cases h .watcherIntervalMs
  cases h .watcherDebounceMs
  cases h .logLevel
  cases h .metricsEnabled
  cases h .metricsAddress
  rfl

end Settings

namespace Setting

def default (x : Setting) : Value := Settings.value {} x

end Setting

namespace Toml

/-- Tables and arrays are groups, and so are dates, which hold nothing. -/
def Item.isGroup : Item → Bool
  | .table .. | .array _ | .tables _ | .moment => true
  | _ => false

/-- The item under a key of a group, or with a number if the group is an array. -/
def Item.at? (key : String) (place : Nat) : Item → Option Item
  | .table _ members => Table.get? members key
  | .array items => items[place]?
  | .tables items => items[place]?.map (.table .header ·)
  | _ => none

theorem Item.given_eq {item : Item} (h : item.isGroup = true) (names : List String) :
    item.given names = some (names.zipIdx.map fun named => item.at? named.1 named.2) := by
  have hplaces (f : Nat → Option Item) :
      (List.range names.length).map f = names.zipIdx.map fun named => f named.2 := by
    rw [List.range_eq_range', ← List.zipIdx_map_snd 0 names, List.map_map]
    rfl
  cases item with
  | table origin members =>
    have hkeys := congrArg (List.map (Table.get? members)) (List.zipIdx_map_fst 0 names)
    rw [List.map_map] at hkeys
    exact congrArg some hkeys.symm
  | array items => exact congrArg some (hplaces _)
  | tables items => exact congrArg some (hplaces _)
  | moment =>
    refine congrArg some ?_
    apply List.ext_getElem
    · simp
    · intro i h h'
      simp [Item.at?]
  | text _ | integer _ | boolean _ | fraction => cases h

theorem Item.given_of_not_group {item : Item} (h : item.isGroup = false) (names : List String) :
    item.given names = none := by
  cases item with
  | table _ _ | array _ | tables _ | moment => cases h
  | text _ | integer _ | boolean _ | fraction => rfl

end Toml

namespace Setting

/-- The item that a document has in the place of the setting. -/
def item? (x : Setting) (doc : Table) : Option Item :=
  (doc.get? x.group.name).bind (Item.at? x.key x.place)

/-- The setting by a document: the item in its place if there is one, else the default. -/
def given? (x : Setting) (doc : Table) : Option Value :=
  match x.item? doc with
  | some item => x.ofItem? item
  | none => some x.default

theorem given?_eq_map {α : Type} {x : Setting} {read : Item → Option α} {wrap : α → Value} {d : α}
    (hread : ∀ item, x.ofItem? item = (read item).map wrap) (hdefault : x.default = wrap d)
    (doc : Table) : x.given? doc = (settingOr read d (x.item? doc)).map wrap := by
  rw [given?]
  cases x.item? doc with
  | none => exact congrArg some hdefault
  | some item => exact hread item

theorem given?_text {x : Setting} {d : String}
    (hread : ∀ item, x.ofItem? item = item.asText.map .text) (hdefault : x.default = .text d)
    {doc : Table} {s : String} :
    x.given? doc = some (.text s) ↔ settingOr Item.asText d (x.item? doc) = some s := by
  simp [given?_eq_map hread hdefault]

theorem given?_flag {x : Setting} {d : Bool}
    (hread : ∀ item, x.ofItem? item = item.asBoolean.map .flag) (hdefault : x.default = .flag d)
    {doc : Table} {b : Bool} :
    x.given? doc = some (.flag b) ↔ settingOr Item.asBoolean d (x.item? doc) = some b := by
  simp [given?_eq_map hread hdefault]

theorem given?_number {x : Setting} {d : UInt64}
    (hread : ∀ item, x.ofItem? item = item.asUInt64.map .number) (hdefault : x.default = .number d)
    {doc : Table} {n : UInt64} :
    x.given? doc = some (.number n) ↔ settingOr Item.asUInt64 d (x.item? doc) = some n := by
  simp [given?_eq_map hread hdefault]

end Setting

/-! ## The groups -/

theorem ListenerSettings.ofItem?_eq_some_iff {item : Item} {l : ListenerSettings} :
    ListenerSettings.ofItem? item = some l ↔ item.isGroup = true ∧
      settingOr Item.asText ({} : ListenerSettings).bindAddress (item.at? "bind_address" 0) =
        some l.bindAddress := by
  cases hgroup : item.isGroup with
  | false => simp [ListenerSettings.ofItem?, Item.given_of_not_group hgroup]
  | true =>
    rw [ListenerSettings.ofItem?, Item.given_eq hgroup]
    simp only [List.zipIdx_cons, List.zipIdx_nil, List.map_cons, List.map_nil,
      Option.bind_eq_bind, Option.bind_some, Option.bind_eq_some_iff, Option.pure_def,
      Option.some.injEq, true_and]
    constructor
    · rintro ⟨_, haddress, rfl⟩
      exact haddress
    · exact fun haddress => ⟨_, haddress, rfl⟩

theorem RepositorySettings.ofItem?_eq_some_iff {item : Item} {r : RepositorySettings} :
    RepositorySettings.ofItem? item = some r ↔ item.isGroup = true ∧
      settingOr Item.asText ({} : RepositorySettings).dir (item.at? "dir" 0) = some r.dir ∧
      settingOr Item.asText ({} : RepositorySettings).fileName (item.at? "file_name" 1) =
        some r.fileName ∧
      settingOr Item.asBoolean ({} : RepositorySettings).watcherEnabled
        (item.at? "watcher_enabled" 2) = some r.watcherEnabled ∧
      settingOr Item.asUInt64 ({} : RepositorySettings).watcherIntervalMs
        (item.at? "watcher_interval_ms" 3) = some r.watcherIntervalMs ∧
      settingOr Item.asUInt64 ({} : RepositorySettings).watcherDebounceMs
        (item.at? "watcher_debounce_ms" 4) = some r.watcherDebounceMs := by
  cases hgroup : item.isGroup with
  | false => simp [RepositorySettings.ofItem?, Item.given_of_not_group hgroup]
  | true =>
    rw [RepositorySettings.ofItem?, Item.given_eq hgroup]
    simp only [List.zipIdx_cons, List.zipIdx_nil, List.map_cons, List.map_nil,
      Option.bind_eq_bind, Option.bind_some, Option.bind_eq_some_iff, Option.pure_def,
      Option.some.injEq, true_and]
    constructor
    · rintro ⟨_, hdir, _, hname, _, henabled, _, hinterval, _, hdebounce, rfl⟩
      exact ⟨hdir, hname, henabled, hinterval, hdebounce⟩
    · rintro ⟨hdir, hname, henabled, hinterval, hdebounce⟩
      exact ⟨_, hdir, _, hname, _, henabled, _, hinterval, _, hdebounce, rfl⟩

theorem ReportSettings.ofItem?_eq_some_iff {item : Item} {r : ReportSettings} :
    ReportSettings.ofItem? item = some r ↔ item.isGroup = true ∧
      settingOr Item.asText ({} : ReportSettings).logLevel (item.at? "log_level" 0) =
        some r.logLevel ∧
      settingOr Item.asBoolean ({} : ReportSettings).metricsEnabled
        (item.at? "metrics_enabled" 1) = some r.metricsEnabled ∧
      settingOr Item.asText ({} : ReportSettings).metricsAddress (item.at? "metrics_address" 2) =
        some r.metricsAddress := by
  cases hgroup : item.isGroup with
  | false => simp [ReportSettings.ofItem?, Item.given_of_not_group hgroup]
  | true =>
    rw [ReportSettings.ofItem?, Item.given_eq hgroup]
    simp only [List.zipIdx_cons, List.zipIdx_nil, List.map_cons, List.map_nil,
      Option.bind_eq_bind, Option.bind_some, Option.bind_eq_some_iff, Option.pure_def,
      Option.some.injEq, true_and]
    constructor
    · rintro ⟨_, hlevel, _, henabled, _, haddress, rfl⟩
      exact ⟨hlevel, henabled, haddress⟩
    · rintro ⟨hlevel, henabled, haddress⟩
      exact ⟨_, hlevel, _, henabled, _, haddress, rfl⟩

theorem Settings.ofItem?_eq_some_iff {doc : Table} {s : Settings} :
    Settings.ofItem? (.table .header doc) = some s ↔
      settingOr ListenerSettings.ofItem? {} (doc.get? "listener") = some s.listener ∧
      settingOr RepositorySettings.ofItem? {} (doc.get? "repository") = some s.repository ∧
      settingOr ReportSettings.ofItem? {} (doc.get? "observability") = some s.report := by
  rw [Settings.ofItem?, Item.given_eq rfl]
  simp only [List.zipIdx_cons, List.zipIdx_nil, List.map_cons, List.map_nil,
    Option.bind_eq_bind, Option.bind_some, Option.bind_eq_some_iff, Option.pure_def,
    Option.some.injEq, Item.at?]
  constructor
  · rintro ⟨_, hlistener, _, hrepository, _, hreport, rfl⟩
    exact ⟨hlistener, hrepository, hreport⟩
  · rintro ⟨hlistener, hrepository, hreport⟩
    exact ⟨_, hlistener, _, hrepository, _, hreport, rfl⟩

/-! ## Settings of a document -/

/-- A document is one for settings if what it has under the names of the groups are groups. -/
def Toml.HoldsGroups (doc : Table) : Prop :=
  ∀ (group : SettingGroup) (item : Item), doc.get? group.name = some item → item.isGroup = true

theorem ListenerSettings.of_given {doc : Table} {l : ListenerSettings} :
    settingOr ListenerSettings.ofItem? {} (doc.get? "listener") = some l ↔
      (∀ item, doc.get? "listener" = some item → item.isGroup = true) ∧
      Setting.bindAddress.given? doc = some (.text l.bindAddress) := by
  rw [Setting.given?_text (fun _ => rfl) rfl]
  simp only [Setting.item?, Setting.group, SettingGroup.name, Setting.key, Setting.place]
  cases doc.get? "listener" with
  | none =>
    obtain ⟨address⟩ := l
    simp [settingOr]
  | some item => simp [settingOr, ListenerSettings.ofItem?_eq_some_iff]

theorem RepositorySettings.of_given {doc : Table} {r : RepositorySettings} :
    settingOr RepositorySettings.ofItem? {} (doc.get? "repository") = some r ↔
      (∀ item, doc.get? "repository" = some item → item.isGroup = true) ∧
      Setting.dir.given? doc = some (.text r.dir) ∧
      Setting.fileName.given? doc = some (.text r.fileName) ∧
      Setting.watcherEnabled.given? doc = some (.flag r.watcherEnabled) ∧
      Setting.watcherIntervalMs.given? doc = some (.number r.watcherIntervalMs) ∧
      Setting.watcherDebounceMs.given? doc = some (.number r.watcherDebounceMs) := by
  rw [Setting.given?_text (fun _ => rfl) rfl, Setting.given?_text (fun _ => rfl) rfl,
    Setting.given?_flag (fun _ => rfl) rfl, Setting.given?_number (fun _ => rfl) rfl,
    Setting.given?_number (fun _ => rfl) rfl]
  simp only [Setting.item?, Setting.group, SettingGroup.name, Setting.key, Setting.place]
  cases doc.get? "repository" with
  | none =>
    obtain ⟨dir, fileName, enabled, interval, debounce⟩ := r
    simp [settingOr]
  | some item => simp [settingOr, RepositorySettings.ofItem?_eq_some_iff]

theorem ReportSettings.of_given {doc : Table} {r : ReportSettings} :
    settingOr ReportSettings.ofItem? {} (doc.get? "observability") = some r ↔
      (∀ item, doc.get? "observability" = some item → item.isGroup = true) ∧
      Setting.logLevel.given? doc = some (.text r.logLevel) ∧
      Setting.metricsEnabled.given? doc = some (.flag r.metricsEnabled) ∧
      Setting.metricsAddress.given? doc = some (.text r.metricsAddress) := by
  rw [Setting.given?_text (fun _ => rfl) rfl, Setting.given?_flag (fun _ => rfl) rfl,
    Setting.given?_text (fun _ => rfl) rfl]
  simp only [Setting.item?, Setting.group, SettingGroup.name, Setting.key, Setting.place]
  cases doc.get? "observability" with
  | none =>
    obtain ⟨level, enabled, address⟩ := r
    simp [settingOr]
  | some item => simp [settingOr, ReportSettings.ofItem?_eq_some_iff]

/-- The settings of a document are those whose values it gives. -/
theorem Settings.ofItem?_eq_some_iff_given {doc : Table} {s : Settings} :
    Settings.ofItem? (.table .header doc) = some s ↔
      HoldsGroups doc ∧ ∀ x : Setting, x.given? doc = some (s.value x) := by
  rw [ofItem?_eq_some_iff, ListenerSettings.of_given, RepositorySettings.of_given,
    ReportSettings.of_given]
  constructor
  · rintro ⟨⟨hlistener, haddress⟩, ⟨hrepository, hdir, hname, henabled, hinterval, hdebounce⟩,
      hreport, hlevel, hmetrics, hmetricsAddress⟩
    refine ⟨fun group => ?_, fun x => ?_⟩
    · cases group
      · exact hlistener
      · exact hrepository
      · exact hreport
    · cases x
      · exact haddress
      · exact hdir
      · exact hname
      · exact henabled
      · exact hinterval
      · exact hdebounce
      · exact hlevel
      · exact hmetrics
      · exact hmetricsAddress
  · rintro ⟨hgroups, hgiven⟩
    exact ⟨⟨hgroups .listener, hgiven .bindAddress⟩,
      ⟨hgroups .repository, hgiven .dir, hgiven .fileName, hgiven .watcherEnabled,
        hgiven .watcherIntervalMs, hgiven .watcherDebounceMs⟩,
      hgroups .report, hgiven .logLevel, hgiven .metricsEnabled, hgiven .metricsAddress⟩

theorem Setting.exists_given {α : Type} {x : Setting} {read : Item → Option α} (wrap : α → Value)
    {d : α} (hread : ∀ item, x.ofItem? item = (read item).map wrap) (hdefault : x.default = wrap d)
    {doc : Table} (h : ∀ item, x.item? doc = some item → ∃ v, x.ofItem? item = some v) :
    ∃ a, x.given? doc = some (wrap a) := by
  cases hitem : x.item? doc with
  | none => exact ⟨d, by rw [given?, hitem, hdefault]⟩
  | some item =>
    obtain ⟨v, hv⟩ := h item hitem
    obtain ⟨a, -, rfl⟩ := Option.map_eq_some_iff.1 ((hread item).symm.trans hv)
    exact ⟨a, by rw [given?, hitem]; exact hv⟩

/-- A document gives settings if it holds groups, and items of the types of the settings in their
places. -/
theorem Settings.exists_ofItem?_iff {doc : Table} :
    (∃ s, Settings.ofItem? (.table .header doc) = some s) ↔
      HoldsGroups doc ∧ ∀ (x : Setting) (item : Item), x.item? doc = some item →
        ∃ v, x.ofItem? item = some v := by
  constructor
  · rintro ⟨s, hs⟩
    obtain ⟨hgroups, hgiven⟩ := ofItem?_eq_some_iff_given.1 hs
    refine ⟨hgroups, fun x item hitem => ⟨s.value x, ?_⟩⟩
    have hx := hgiven x
    rwa [Setting.given?, hitem] at hx
  · rintro ⟨hgroups, htyped⟩
    obtain ⟨address, haddress⟩ :=
      Setting.exists_given .text (fun _ => rfl) rfl (htyped .bindAddress)
    obtain ⟨dir, hdir⟩ := Setting.exists_given .text (fun _ => rfl) rfl (htyped .dir)
    obtain ⟨fileName, hname⟩ := Setting.exists_given .text (fun _ => rfl) rfl (htyped .fileName)
    obtain ⟨enabled, henabled⟩ :=
      Setting.exists_given .flag (fun _ => rfl) rfl (htyped .watcherEnabled)
    obtain ⟨interval, hinterval⟩ :=
      Setting.exists_given .number (fun _ => rfl) rfl (htyped .watcherIntervalMs)
    obtain ⟨debounce, hdebounce⟩ :=
      Setting.exists_given .number (fun _ => rfl) rfl (htyped .watcherDebounceMs)
    obtain ⟨level, hlevel⟩ := Setting.exists_given .text (fun _ => rfl) rfl (htyped .logLevel)
    obtain ⟨metrics, hmetrics⟩ :=
      Setting.exists_given .flag (fun _ => rfl) rfl (htyped .metricsEnabled)
    obtain ⟨metricsAddress, hmetricsAddress⟩ :=
      Setting.exists_given .text (fun _ => rfl) rfl (htyped .metricsAddress)
    refine ⟨⟨⟨address⟩, ⟨dir, fileName, enabled, interval, debounce⟩,
      ⟨level, metrics, metricsAddress⟩⟩, ofItem?_eq_some_iff_given.2 ⟨hgroups, fun x => ?_⟩⟩
    cases x
    · exact haddress
    · exact hdir
    · exact hname
    · exact henabled
    · exact hinterval
    · exact hdebounce
    · exact hlevel
    · exact hmetrics
    · exact hmetricsAddress

end HostRegistry
