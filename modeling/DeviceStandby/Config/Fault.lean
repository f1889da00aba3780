import DeviceStandby.Config.File
import DeviceStandby.Config.TimeText
import DeviceStandby.Config.Version
import DeviceStandby.Resource

/-!
# Faults of a configuration

`ConfigFile.faults` lists everything that is wrong with the content of a configuration file, in a
fixed order: the version, the plug-in, the strategies, the timeouts, the intervals, the night, and
then the resources in the order of their names.  Of a resource that is unknown nothing else is said.
-/

namespace DeviceStandby

/-- Something that is wrong with the content of a configuration file. -/
inductive ConfigFault where
  | unknownResource (name : String)
  | unknownCondition (resource condition : String)
  | negativeLimit (resource name : String) (value : Int)
  | nonPositiveInterval (list : String) (value : Int)
  | negativeTimeout (name : String) (value : Int)
  | badTime (text : String) (fault : TimeFault)
  | blankPlugin
  | badVersion (text : String)
  | blankStrategy
deriving DecidableEq, Repr

namespace ConfigFault

/-- The wording of a fault. -/
def message : ConfigFault → String
  | unknownResource name => "Unknown resource '" ++ name ++ "'"
  | unknownCondition resource condition =>
    "Resource '" ++ resource ++ "': unknown condition '" ++ condition ++ "'"
  | negativeLimit resource name value =>
    "Resource '" ++ resource ++ "': max_duration " ++ toString value ++ "s for '" ++ name
      ++ "' is negative"
  | nonPositiveInterval list value =>
    "Interval list '" ++ list ++ "' contains non-positive value " ++ toString value
  | negativeTimeout name value =>
    "Parameter '" ++ name ++ "' must not be negative (got " ++ toString value ++ ")"
  | badTime text fault => "Invalid time format '" ++ text ++ "': " ++ fault.message
  | blankPlugin => "Plugin name cannot be empty"
  | badVersion text => "Invalid version '" ++ text ++ "': expected four dot-separated numbers"
  | blankStrategy => "Strategy name cannot be empty"

end ConfigFault

/-- Whether a name is nothing but blanks. -/
def isBlankName (name : String) : Bool := (trimChars name.toList).isEmpty

/-! ## Faults, part by part -/

/-- A negative timeout. -/
def timeoutFaults (name : String) : Option Int → List ConfigFault
  | some value => if value < 0 then [.negativeTimeout name value] else []
  | none => []

/-- The intervals that are not positive. -/
def intervalFaults (name : String) (intervals : Option (List Int)) : List ConfigFault :=
  ((intervals.getD []).filter (· ≤ 0)).map (.nonPositiveInterval name)

/-- A time of day that cannot be read. -/
def timeFaults (text : String) : List ConfigFault :=
  match TimeText.parse text with
  | .ok _ => []
  | .error fault => [.badTime text fault]

namespace EntrySettings

/-- The faults of one entry of a known resource. -/
def faults (resource : String) (entry : EntrySettings) : List ConfigFault :=
  (entry.conditions.filter (fun text => (Condition.parse? text).isNone)).map
      (.unknownCondition resource)
    ++ ((entry.limitedProcesses ++ entry.limitedApps).filter (·.maxDuration < 0)).map
      (fun limit => .negativeLimit resource limit.name limit.maxDuration)

end EntrySettings

namespace ConfigFile

/-- The faults of the version, the plug-in and the strategies. -/
def nameFaults (file : ConfigFile) : List ConfigFault :=
  (match file.version with
    | some text => if (Version.parse? text).isNone then [.badVersion text] else []
    | none => [])
  ++ (if file.service.plugin.any isBlankName then [.blankPlugin] else [])
  ++ (if file.strategies.any isBlankName then [.blankStrategy] else [])

/-- The faults of the timeouts and intervals. -/
def durationFaults (file : ConfigFile) : List ConfigFault :=
  timeoutFaults "dark_timeout" file.timeouts.dark
  ++ timeoutFaults "nap_timeout" file.timeouts.nap
  ++ timeoutFaults "nap_maintenance_timeout" file.timeouts.napMaintenance
  ++ timeoutFaults "sleep_maintenance_timeout" file.timeouts.sleepMaintenance
  ++ intervalFaults "nap_interval" file.intervals.nap
  ++ intervalFaults "sleep_interval" file.intervals.sleep

/-- The faults of the night. -/
def nightFaults (file : ConfigFile) : List ConfigFault :=
  match file.night with
  | some night => timeFaults night.start ++ timeFaults night.stop
  | none => []

/-- The faults of the entries under one name. -/
def resourceFaults (name : String) (entries : List EntrySettings) : List ConfigFault :=
  if (Resource.ofName? name).isNone then [.unknownResource name]
  else entries.flatMap (EntrySettings.faults name)

/-- Everything that is wrong with the content of the file. -/
def faults (file : ConfigFile) : List ConfigFault :=
  file.nameFaults ++ file.durationFaults ++ file.nightFaults
    ++ file.resources.entries.flatMap (fun (name, entries) => resourceFaults name entries)

end ConfigFile

end DeviceStandby
