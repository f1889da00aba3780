import DeviceStandby.Config.Policy
import DeviceStandby.Error
import DeviceStandby.Plugin.Probe

/-!
# Plug-ins

A plug-in supplies the roles that the service works with.  A `Registry` knows plug-ins by name; what
it knows of one may be that it cannot be made.  Where the plug-in that the policy names cannot be
had, the default one takes its place.
-/

namespace DeviceStandby

/-- The plug-ins that can be made. -/
inductive Plugin where
  /-- The built-in one. -/
  | standard
  /-- The built-in one with a scripted constraint and a log of its calls. -/
  | traced
deriving DecidableEq, Repr, Inhabited

namespace Plugin

/-- The constraint of a plug-in. -/
def constraint : Plugin → Constraint Probe
  | standard =>
    { start := fun question devices probe => (deviceVerdict question devices, probe)
      stop := id
      isEvaluating := fun _ => false }
  | traced => Probe.constraint

end Plugin

/-- The known plug-ins, or why they cannot be made, by name. -/
abbrev Registry := Table (Except ServiceError Plugin)

namespace Registry

/-- The registry that knows the default plug-in only. -/
def standard : Registry := Table.empty.insert defaultPluginName (.ok .standard)

/-- Makes the plug-in with this name. -/
def create (registry : Registry) (name : String) : Except ServiceError Plugin :=
  (registry.get? name).getD (.error (.pluginLoad ("unknown plugin " ++ name)))

/-- Makes the plug-in with this name, or else the default one. -/
def load (registry : Registry) (name : String) : Except ServiceError Plugin :=
  match registry.create name with
  | .ok plugin => .ok plugin
  | .error error =>
    if name = defaultPluginName then .error error
    else match registry.create defaultPluginName with
      | .ok plugin => .ok plugin
      | .error error =>
        .error (.pluginLoad (name ++ " and default plugin failed: " ++ error.message))

end Registry

end DeviceStandby
