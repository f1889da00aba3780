import DeviceStandby.Exemption.Admission
import DeviceStandby.Machine.Step
import DeviceStandby.Plugin.Listener
import DeviceStandby.Plugin.Registry
import DeviceStandby.Plugin.Strategies

/-!
# The engine

The `Engine` joins the exemption table with the roles of a plug-in: a listener, the state machine
with its constraint, and the strategies.  It is ready between `Engine.init` and `Engine.uninit`; the
exemption table is there all the time.
-/

namespace DeviceStandby

/-- The service: the exemption table, the roles of the plug-in and what they act on. -/
structure Engine extends Admission where
  /-- The plug-in that the policy named when the engine was made. -/
  pluginName : String
  plugin : Plugin
  probe : Probe := {}
  machine : Machine := {}
  listener : Listener := {}
  /-- The active strategies. -/
  strategies : List String := []
  ready : Bool := false
  /-- The timer for the next change between day and night. -/
  dayNightTimer : Option TimerId := none

namespace Engine

/-- Makes an engine with the plug-in that the policy names. -/
def create? (registry : Registry) (policy : Policy) (host : Host) (probe : Probe := {}) :
    Except ServiceError Engine :=
  match registry.load policy.plugin with
  | .error error => .error error
  | .ok plugin =>
    .ok { table := Table.empty, policy, host, pluginName := policy.plugin, plugin, probe }

/-- Changes the exemption table and what it acts on. -/
def withAdmission (e : Engine) (a : Admission) : Engine := { e with toAdmission := a }

/-- Lets the state machine take a step. -/
def drive (e : Engine) (step : Rig Probe → Rig Probe) : Engine :=
  let rig := step ⟨e.machine, e.host, e.probe⟩
  { e with machine := rig.machine, host := rig.host, probe := rig.constraint }

/-- Puts an event on record. -/
def audit (e : Engine) (event : AuditEvent) : Engine := { e with host := e.host.audit event }

/-- Logs a call of a role, if the plug-in keeps a log. -/
def note (e : Engine) (call : RoleCall) : Engine :=
  match e.plugin with
  | .traced => { e with probe := e.probe.log call }
  | .standard => e

/-- Whether a call of a role is made to fail. -/
def failsAt (e : Engine) (call : RoleCall) : Bool :=
  e.plugin = .traced && e.probe.failing = some call.text

/-! ## What the engine shows -/

/-- What the state machine shows of itself. -/
def snapshot (e : Engine) : Snapshot := e.machine.snapshot

/-- Names with commas between them, in brackets. -/
def nameList (names : List String) : String := "[" ++ joinWith ", " names ++ "]"

/-- The listing of the state machine, the strategies and the exemption table. -/
def dump (e : Engine) : String :=
  e.machine.dump ++ "active strategies: " ++ nameList e.strategies ++ "\n" ++ e.toAdmission.dump

end Engine

end DeviceStandby
