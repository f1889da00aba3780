import DeviceStandby.Json.Decode

/-!
# Configuration files

`ConfigFile` is what a configuration file says, before anything is checked beyond the shape: which
settings are there and of what type they are.  Settings that are unknown are ignored.
-/

namespace DeviceStandby

/-- The plug-in and the data directory. -/
structure ServiceSettings where
  plugin : Option String := none
  dataDir : Option String := none
deriving DecidableEq, Repr, Inhabited

/-- Which of the deeper states may be entered. -/
structure SwitchSettings where
  nap : Option Bool := none
  sleep : Option Bool := none
deriving DecidableEq, Repr, Inhabited

/-- How long the states last, in seconds. -/
structure TimeoutSettings where
  dark : Option Int := none
  nap : Option Int := none
  napMaintenance : Option Int := none
  sleepMaintenance : Option Int := none
deriving DecidableEq, Repr, Inhabited

/-- How long to wait for each maintenance, in seconds. -/
structure IntervalSettings where
  nap : Option (List Int) := none
  sleep : Option (List Int) := none
deriving DecidableEq, Repr, Inhabited

/-- The window of the night, as texts. -/
structure NightSettings where
  start : String
  stop : String
deriving DecidableEq, Repr, Inhabited

/-- A name and the longest exemption it may get, in seconds. -/
structure LimitSetting where
  name : String
  maxDuration : Int
deriving DecidableEq, Repr, Inhabited

/-- One entry of the policy for a resource. -/
structure EntrySettings where
  isAllow : Bool := true
  conditions : List String := []
  processes : List String := []
  apps : List String := []
  limitedProcesses : List LimitSetting := []
  limitedApps : List LimitSetting := []
deriving DecidableEq, Repr, Inhabited

/-- What a configuration file says. -/
structure ConfigFile where
  /-- The version of the file format. -/
  format : Nat
  /-- The version of the content. -/
  version : Option String := none
  strategies : List String := []
  service : ServiceSettings := {}
  switches : SwitchSettings := {}
  timeouts : TimeoutSettings := {}
  intervals : IntervalSettings := {}
  night : Option NightSettings := none
  /-- The entries for each resource, under the name that the file gives it. -/
  resources : Table (List EntrySettings) := Table.empty
deriving DecidableEq, Repr

/-! ## Reading

`closed` says whether a record that is written as a list must not be too long. -/

namespace ServiceSettings

/-- Reads the settings of the service. -/
def ofValue? (closed : Bool) (value : Value) : Option ServiceSettings := do
  let members ← value.members? [("plugin", .optional), ("data_dir", .optional)] closed
  return {
    plugin := ← Value.want? members "plugin" Value.text?
    dataDir := ← Value.want? members "data_dir" Value.text? }

end ServiceSettings

namespace SwitchSettings

/-- Reads the switches. -/
def ofValue? (closed : Bool) (value : Value) : Option SwitchSettings := do
  let members ← value.members? [("nap_switch", .optional), ("sleep_switch", .optional)] closed
  return {
    nap := ← Value.want? members "nap_switch" Value.bool?
    sleep := ← Value.want? members "sleep_switch" Value.bool? }

end SwitchSettings

namespace TimeoutSettings

/-- Reads the timeouts. -/
def ofValue? (closed : Bool) (value : Value) : Option TimeoutSettings := do
  let members ← value.members? [("dark_timeout", .optional), ("nap_timeout", .optional),
    ("nap_maintenance_timeout", .optional), ("sleep_maintenance_timeout", .optional)] closed
  let seconds (name : String) := Value.want? members name (Value.int? .int64)
  return {
    dark := ← seconds "dark_timeout"
    nap := ← seconds "nap_timeout"
    napMaintenance := ← seconds "nap_maintenance_timeout"
    sleepMaintenance := ← seconds "sleep_maintenance_timeout" }

end TimeoutSettings

namespace IntervalSettings

/-- Reads the intervals. -/
def ofValue? (closed : Bool) (value : Value) : Option IntervalSettings := do
  let members ← value.members? [("nap_interval", .optional), ("sleep_interval", .optional)] closed
  let list (name : String) := Value.want? members name (Value.items? (Value.int? .int64))
  return { nap := ← list "nap_interval", sleep := ← list "sleep_interval" }

end IntervalSettings

namespace NightSettings

/-- Reads the window of the night. -/
def ofValue? (closed : Bool) (value : Value) : Option NightSettings := do
  let members ← value.members? [("start", .required), ("end", .required)] closed
  return {
    start := ← Value.need? members "start" Value.text?
    stop := ← Value.need? members "end" Value.text? }

end NightSettings

namespace LimitSetting

/-- Reads a name with its limit. -/
def ofValue? (closed : Bool) (value : Value) : Option LimitSetting := do
  let members ← value.members? [("name", .required), ("max_duration", .required)] closed
  return {
    name := ← Value.need? members "name" Value.text?
    maxDuration := ← Value.need? members "max_duration" (Value.int? .int64) }

end LimitSetting

namespace EntrySettings

/-- Reads one entry of a resource. -/
def ofValue? (closed : Bool) (value : Value) : Option EntrySettings := do
  let members ← value.members? [("is_allow", .defaulted), ("conditions", .defaulted),
    ("processes", .defaulted), ("apps", .defaulted), ("time_limited_processes", .defaulted),
    ("time_limited_apps", .defaulted)] closed
  let names (name : String) := Value.wantOr? members name [] (Value.items? Value.text?)
  let limits (name : String) :=
    Value.wantOr? members name [] (Value.items? (LimitSetting.ofValue? closed))
  return {
    isAllow := ← Value.wantOr? members "is_allow" true Value.bool?
    conditions := ← names "conditions"
    processes := ← names "processes"
    apps := ← names "apps"
    limitedProcesses := ← limits "time_limited_processes"
    limitedApps := ← limits "time_limited_apps" }

end EntrySettings

namespace ConfigFile

/-- Reads the entries of every resource. -/
def resourcesOfValue? (closed : Bool) : Value → Option (Table (List EntrySettings))
  | .record members =>
    (members.mapM (fun (entry : String × Value) =>
      (entry.2.items? (EntrySettings.ofValue? closed)).map (fun entries => (entry.1, entries)))).map
        Table.ofList
  | _ => none

/-- Reads a configuration file. -/
def ofValue? (closed : Bool) (value : Value) : Option ConfigFile := do
  let members ← value.members? [("config_version", .required), ("version", .optional),
    ("strategies", .defaulted), ("service", .defaulted), ("switches", .defaulted),
    ("parameters", .defaulted), ("intervals", .defaulted), ("night", .optional),
    ("resources", .defaulted)] closed
  return {
    format := ← Value.need? members "config_version" (Value.nat? .word32)
    version := ← Value.want? members "version" Value.text?
    strategies := ← Value.wantOr? members "strategies" [] (Value.items? Value.text?)
    service := ← Value.wantOr? members "service" {} (ServiceSettings.ofValue? closed)
    switches := ← Value.wantOr? members "switches" {} (SwitchSettings.ofValue? closed)
    timeouts := ← Value.wantOr? members "parameters" {} (TimeoutSettings.ofValue? closed)
    intervals := ← Value.wantOr? members "intervals" {} (IntervalSettings.ofValue? closed)
    night := ← Value.want? members "night" (NightSettings.ofValue? closed)
    resources := ← Value.wantOr? members "resources" Table.empty (resourcesOfValue? closed) }

end ConfigFile

end DeviceStandby
