import DeviceStandby.Config.Policy
import DeviceStandby.Request

/-!
# Policies as documents

The document of a policy gives every value that the service works with.
-/

namespace DeviceStandby

/-- The document of a time of day. -/
def ClockTime.toValue (time : ClockTime) : Value :=
  .record [("hour", .nat time.hour), ("minute", .nat time.minute)]

/-- The document of a limit. -/
def Limit.toValue (limit : Limit) : Value := .list [.text limit.name, .nat limit.seconds]

/-- The sets of conditions for which the document of a rule says whether it applies. -/
def Condition.sets : List Mask := [0, Condition.day, Condition.night, Condition.known]

/-- The document of a rule. -/
def Rule.toValue (rule : Rule) : Value :=
  .record [("is_allow", .bool rule.isAllow),
    ("conditions", .list (rule.conditions.map Mask.toValue)),
    ("processes", .list (rule.processes.keys.map .text)),
    ("apps", .list (rule.apps.keys.map .text)),
    ("time_limited_processes", .list (rule.limitedProcesses.map Limit.toValue)),
    ("time_limited_apps", .list (rule.limitedApps.map Limit.toValue)),
    ("applies", .list (Condition.sets.map (fun set => .bool (rule.appliesTo set))))]

/-- The document of the rules for a resource. -/
def Rule.listValue (kind : Resource) (rules : List Rule) : Value :=
  .record [("kind", .text kind.name), ("entries", .list (rules.map Rule.toValue))]

/-- The document of the durations of the states. -/
def Timeouts.toValue (timeouts : Timeouts) : Value :=
  .record [("dark", .nat timeouts.dark), ("nap", .nat timeouts.nap),
    ("nap_maintenance", .nat timeouts.napMaintenance),
    ("sleep_maintenance", .nat timeouts.sleepMaintenance)]

/-- The document of a policy. -/
def Policy.toValue (policy : Policy) : Value :=
  .record [("version", Value.ofOption .text policy.version), ("plugin", .text policy.plugin),
    ("data_dir", .text policy.dataDir), ("nap_switch", .bool policy.napSwitch),
    ("sleep_switch", .bool policy.sleepSwitch), ("timeouts", policy.timeouts.toValue),
    ("nap_intervals", .list (policy.napIntervals.map .nat)),
    ("sleep_intervals", .list (policy.sleepIntervals.map .nat)),
    ("night", .record [("start", policy.night.start.toValue), ("end", policy.night.stop.toValue)]),
    ("strategies", .list (policy.strategies.map .text)),
    ("resources", .list (policy.resources.map (fun (kind, rules) => Rule.listValue kind rules)))]

end DeviceStandby
