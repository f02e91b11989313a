import HostRegistry.Settings
import HostRegistry.Toml.Reader

/-!
# Settings in a TOML document

A group of settings is a table with a key for each, or an array of their values in order. Keys that
name no setting are passed over, and settings that are not given keep their default.
-/

namespace HostRegistry

open Toml

/-- The items given for the named settings, in their order; nothing if the item is no group. A date
is a group in which none of them is given. -/
def Toml.Item.given (names : List String) : Item → Option (List (Option Item))
  | .table _ members => some (names.map (Table.get? members))
  | .array items => some ((List.range names.length).map (items[·]?))
  | .tables items => some ((List.range names.length).map fun i => items[i]?.map (.table .header ·))
  | .moment => some (names.map fun _ => none)
  | _ => none

def Toml.Item.asText : Item → Option String
  | .text s => some s
  | _ => none

def Toml.Item.asBoolean : Item → Option Bool
  | .boolean b => some b
  | _ => none

def Toml.Item.asUInt64 : Item → Option UInt64
  | .integer n => if 0 ≤ n then some n.toNat.toUInt64 else none
  | _ => none

/-- The setting that an item gives, or its default if there is none. -/
def Toml.settingOr {α : Type} (read : Item → Option α) (default : α) : Option Item → Option α
  | none => some default
  | some item => read item

def ListenerSettings.ofItem? (item : Item) : Option ListenerSettings := do
  match ← item.given ["bind_address"] with
  | [address] => pure ⟨← settingOr Item.asText ({} : ListenerSettings).bindAddress address⟩
  | _ => none

def RepositorySettings.ofItem? (item : Item) : Option RepositorySettings := do
  let default : RepositorySettings := {}
  match ← item.given ["dir", "file_name", "watcher_enabled", "watcher_interval_ms",
      "watcher_debounce_ms"] with
  | [dir, fileName, enabled, interval, debounce] =>
    pure {
      dir := ← settingOr Item.asText default.dir dir
      fileName := ← settingOr Item.asText default.fileName fileName
      watcherEnabled := ← settingOr Item.asBoolean default.watcherEnabled enabled
      watcherIntervalMs := ← settingOr Item.asUInt64 default.watcherIntervalMs interval
      watcherDebounceMs := ← settingOr Item.asUInt64 default.watcherDebounceMs debounce }
  | _ => none

def ReportSettings.ofItem? (item : Item) : Option ReportSettings := do
  let default : ReportSettings := {}
  match ← item.given ["log_level", "metrics_enabled", "metrics_address"] with
  | [level, enabled, address] =>
    pure {
      logLevel := ← settingOr Item.asText default.logLevel level
      metricsEnabled := ← settingOr Item.asBoolean default.metricsEnabled enabled
      metricsAddress := ← settingOr Item.asText default.metricsAddress address }
  | _ => none

def Settings.ofItem? (item : Item) : Option Settings := do
  match ← item.given ["listener", "repository", "observability"] with
  | [listener, repository, report] =>
    pure {
      listener := ← settingOr ListenerSettings.ofItem? {} listener
      repository := ← settingOr RepositorySettings.ofItem? {} repository
      report := ← settingOr ReportSettings.ofItem? {} report }
  | _ => none

/-- The settings that the text of a file gives. -/
def Settings.ofText? (s : String) : Option Settings := do
  Settings.ofItem? (.table .header (← Toml.ofText? s))

end HostRegistry
