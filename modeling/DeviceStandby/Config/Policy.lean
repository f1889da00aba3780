import DeviceStandby.Config.Fault
import DeviceStandby.Config.Location
import DeviceStandby.Time.Clock

/-!
# Policies

A `Policy` holds the values that the service works with.  `Policy.ofFile` converts a configuration
file: settings that are missing, and values that make no sense, are replaced by defaults or dropped.
Of a file without faults nothing is replaced, and nothing dropped but the entries under a name that
is followed by another name for the same resource.

The entries of a resource answer two questions: how long an exemption of a name may last
(`Policy.maxDuration`), and which names are allowed or restricted for good (`Policy.persistent`).
-/

namespace DeviceStandby

/-- The plug-in that is used when the configured one cannot be loaded. -/
def defaultPluginName : String := "standby-default"

/-- A name whose exemptions last at most so many seconds. -/
structure Limit where
  name : String
  seconds : Nat
deriving DecidableEq, Repr, Inhabited

/-- One entry of the policy for a resource. -/
structure Rule where
  /-- Whether the entry allows; else it restricts. -/
  isAllow : Bool
  /-- The sets of conditions under which it applies. -/
  conditions : List Mask
  processes : Table Unit
  apps : Table Unit
  limitedProcesses : List Limit
  limitedApps : List Limit
deriving DecidableEq

/-- How long the states last, in seconds. -/
structure Timeouts where
  /-- Dark, before it turns to nap or sleep. -/
  dark : Nat := 300
  /-- All of nap, before it turns to sleep. -/
  nap : Nat := 1800
  napMaintenance : Nat := 30
  sleepMaintenance : Nat := 60
deriving DecidableEq, Repr, Inhabited

/-- The values that the service works with. -/
structure Policy where
  /-- The version of the content, if there is one. -/
  version : Option String
  plugin : String
  dataDir : String
  napSwitch : Bool
  sleepSwitch : Bool
  timeouts : Timeouts
  /-- How long to nap before each maintenance, in seconds. -/
  napIntervals : List Nat
  /-- How long to sleep before each maintenance, in seconds. -/
  sleepIntervals : List Nat
  /-- The window of the day that counts as night. -/
  night : DailyWindow
  strategies : List String
  /-- The rules for each resource that has some, in the order of the resources. -/
  resources : List (Resource × List Rule)
deriving DecidableEq

/-! ## Conversion -/

/-- The names of a set of names, in order. -/
def nameSet (names : List String) : Table Unit := Table.ofList (names.map (fun name => (name, ())))

/-- The seconds of a setting, or `fallback` if there is none or it is negative. -/
def secondsOr (fallback : Nat) : Option Int → Nat
  | some value => if value < 0 then fallback else value.toNat
  | none => fallback

/-- The positive intervals of a setting, or `fallback` if there is none. -/
def intervalsOr (fallback : List Nat) : Option (List Int) → List Nat
  | some values => (values.filter (0 < ·)).map Int.toNat
  | none => fallback

/-- The window that counts as night if the file names none. -/
def defaultNight : DailyWindow := ⟨⟨22, 0⟩, ⟨6, 0⟩⟩

/-- The window of a setting, or the default one if a time cannot be read. -/
def nightOr : Option NightSettings → DailyWindow
  | some night =>
    match TimeText.parse? night.start, TimeText.parse? night.stop with
    | some start, some stop => ⟨start, stop⟩
    | _, _ => defaultNight
  | none => defaultNight

namespace Limit

/-- Converts a limit; a negative one is zero. -/
def ofSetting (setting : LimitSetting) : Limit := ⟨setting.name, setting.maxDuration.toNat⟩

end Limit

namespace Rule

/-- Converts an entry; conditions that cannot be read are dropped. -/
def ofSettings (entry : EntrySettings) : Rule where
  isAllow := entry.isAllow
  conditions := entry.conditions.filterMap Condition.parse?
  processes := nameSet entry.processes
  apps := nameSet entry.apps
  limitedProcesses := entry.limitedProcesses.map Limit.ofSetting
  limitedApps := entry.limitedApps.map Limit.ofSetting

/-- Whether the rule applies under the given conditions, all of them at once. -/
def appliesTo (rule : Rule) (condition : Mask) : Bool :=
  condition != 0 && rule.conditions.any (fun set => Condition.covers set condition)

end Rule

/-- The rules of a resource: those under the last of the names that mean it. -/
def rulesOf (resources : Table (List EntrySettings)) (kind : Resource) : Option (List Rule) :=
  ((resources.entries.filter (fun entry => Resource.ofName? entry.1 = some kind)).getLast?).map
    (fun entry => entry.2.map Rule.ofSettings)

namespace Policy

/-- Converts a configuration file. -/
def ofFile (env : Environment) (file : ConfigFile) : Policy where
  version := file.version
  plugin := file.service.plugin.getD defaultPluginName
  dataDir := file.service.dataDir.getD env.dataPath
  napSwitch := file.switches.nap.getD true
  sleepSwitch := file.switches.sleep.getD true
  timeouts := {
    dark := secondsOr 300 file.timeouts.dark
    nap := secondsOr 1800 file.timeouts.nap
    napMaintenance := secondsOr 30 file.timeouts.napMaintenance
    sleepMaintenance := secondsOr 60 file.timeouts.sleepMaintenance }
  napIntervals := intervalsOr [900, 1800] file.intervals.nap
  sleepIntervals := intervalsOr [3600, 7200, 14400] file.intervals.sleep
  night := nightOr file.night
  strategies := file.strategies
  resources := Resource.all.filterMap (fun kind =>
    (rulesOf file.resources kind).map (fun rules => (kind, rules)))

/-- The policy without any configuration. -/
def default (env : Environment) : Policy := ofFile env { format := 1 }

/-! ## Questions -/

/-- The condition in effect at a second of the day. -/
def conditionAt (policy : Policy) (second : Nat) : Mask :=
  if policy.night.contains second then Condition.night else Condition.day

/-- The rules for the resource with this name. -/
def rulesNamed (policy : Policy) (resource : String) : List Rule :=
  match Resource.ofName? resource with
  | none => []
  | some kind =>
    match policy.resources.find? (fun entry => entry.1 = kind) with
    | some entry => entry.2
    | none => []

/-- The rules that allow, or that restrict, under a condition. -/
def rulesFor (policy : Policy) (resource : String) (condition : Mask) (isAllow : Bool) :
    List Rule :=
  (policy.rulesNamed resource).filter
    (fun rule => rule.isAllow == isAllow && rule.appliesTo condition)

/-- How many seconds an exemption of `name` may last, zero for a name without a limit. -/
def maxDuration (policy : Policy) (name resource : String) (condition : Mask) (isApp : Bool) :
    Int :=
  let limits := (policy.rulesFor resource condition true).flatMap
    (fun rule => if isApp then rule.limitedApps else rule.limitedProcesses)
  ((limits.filter (fun limit => limit.name = name)).map
    (fun limit => min (limit.seconds : Int) Width.int32.greatest)).foldl max 0

/-- The names that are allowed, or restricted, for good, in order. -/
def persistent (policy : Policy) (resource : String) (condition : Mask) (isAllow isApp : Bool) :
    List String :=
  (nameSet ((policy.rulesFor resource condition isAllow).flatMap
    (fun rule => if isApp then rule.apps.keys else rule.processes.keys))).keys

end Policy

end DeviceStandby
