import DeviceStandby.Engine.Basic
import DeviceStandby.Exemption.Recovery

/-!
# Starting, stopping and reloading

`Engine.init` brings the roles up one after the other, arms the timer for the next change between
day and night, and recovers the stored exemptions.  A role that fails ends it there, and the engine
is not ready.
-/

namespace DeviceStandby.Engine

/-- Cancels the timer for the change between day and night, and arms it anew for the next one. -/
def armDayNight (e : Engine) : Engine :=
  let host := e.host.cancel? e.dayNightTimer
  let delay := e.policy.night.untilNextEdge host.wall.secondOfDay * 1000
  let (dayNightTimer, host) := host.arm delay .dayNightSwitch
  { e with host, dayNightTimer }

/-- Brings a role up, unless that is made to fail. -/
def bringUp (e : Engine) (call : RoleCall) (act : Engine → Engine) :
    Except ServiceError Unit × Engine :=
  let e := e.note call
  if e.failsAt call then (.error (.internal (call.text ++ " failed")), e) else (.ok (), act e)

/-- Brings roles up until one fails. -/
def bringUpAll : List (RoleCall × (Engine → Engine)) → Engine → Except ServiceError Unit × Engine
  | [], e => (.ok (), e)
  | (call, act) :: rest, e =>
    match e.bringUp call act with
    | (.ok _, e) => bringUpAll rest e
    | (.error error, e) => (.error error, e)

/-- The roles that are brought up after the state machine, in order. -/
def laterRoles : List (RoleCall × (Engine → Engine)) :=
  [(.strategyInit, fun e => { e with strategies := [] }), (.constraintInit, id),
    (.listenerInit, id), (.listenerStart, fun e => { e with listener := e.listener.start })]

/-- Makes the engine ready, given the running processes if they could be listed. -/
def init (e : Engine) (running : Option Processes) : Except ServiceError Unit × Engine :=
  if e.ready then (.ok (), e)
  else
    match e.bringUp .stateInit (fun e => e.drive Rig.init) with
    | (.error error, e) => (.error (.stateInitFailed error.message), e)
    | (.ok _, e) =>
      match bringUpAll laterRoles e with
      | (.error error, e) => (.error error, e)
      | (.ok _, e) =>
        let e := e.armDayNight
        let e := { e with toAdmission := e.toAdmission.recover running, ready := true }
        (.ok (), e.audit (.serviceStarted e.pluginName))

/-- Lets the roles rest.  The exemption table and its timers stay. -/
def uninit (e : Engine) : Engine :=
  if !e.ready then e
  else
    let e := { e with listener := e.listener.stop }.note .listenerStop
    let e := { e with listener := e.listener.uninit }
    let e := (e.note (.listenerUninit e.listener.seen)).note .constraintUninit
    let e := { e.note .strategyUninit with strategies := [] }
    let e := (e.note .stateUninit).drive Rig.uninit
    let e := { e with host := e.host.cancel? e.dayNightTimer, dayNightTimer := none, ready := false }
    e.audit .serviceStopped

/-- Goes on with another policy.  The plug-in stays. -/
def reload (e : Engine) (policy : Policy) : Engine :=
  let e := { e with policy }
  if e.ready then e.armDayNight else e

end DeviceStandby.Engine
