import DeviceStandby.Config.Policy
import DeviceStandby.Host.Basic
import DeviceStandby.Machine.Basic

/-!
# Entering a state

Each state but working arms, when it is entered, one timer that leads to the next state; where that
is and how long it takes is decided on entry (`Machine.planEntry`).  `Rig.enter` first cancels the
timers of the old state and then arms the new one.  If that fails, nothing else has changed: the
machine stays where it was, without timers.

Nap alternates with maintenance and gives way to sleep at its deadline; sleep alternates with
maintenance.  How long each stretch is comes from a `Backoff`.  Entering the state that the machine
is in already, as a blocked machine does, repeats the stretch.
-/

namespace DeviceStandby

/-- What entering a state will do. -/
structure EntryPlan where
  /-- The milliseconds until the next state, and which one it is. -/
  timer : Option (Nat × State)
  maintenanceOrigin : State
  napDeadline : Option Int
  napBackoff : Backoff
  sleepBackoff : Backoff
deriving DecidableEq, Repr

namespace Machine

/-- The plan that arms no timer and changes nothing. -/
def idlePlan (machine : Machine) : EntryPlan where
  timer := none
  maintenanceOrigin := machine.maintenanceOrigin
  napDeadline := machine.napDeadline
  napBackoff := machine.napBackoff
  sleepBackoff := machine.sleepBackoff

/-- Where dark leads: to nap or else to sleep, as far as they are switched on. -/
def darkTarget (policy : Policy) : Option State :=
  if policy.napSwitch then some .nap else if policy.sleepSwitch then some .sleep else none

/-- When a nap that begins at `now` ends. -/
def freshNapDeadline (policy : Policy) (now : Int) : Int :=
  Width.int64.clamp (now + min ((policy.timeouts.nap : Int) * 1000) Width.int64.greatest)

/-- The timer of nap, given the seconds until maintenance and the milliseconds until the deadline.
Whichever comes first is next; without sleep there is only maintenance, and an interval of zero
stands for none. -/
def napTimer (policy : Policy) (interval remaining : Nat) : Option (Nat × State) :=
  if interval ≠ 0 && (interval * 1000 < remaining || !policy.sleepSwitch) then
    some (interval * 1000, .maintenance)
  else if policy.sleepSwitch then some (remaining, .sleep)
  else none

/-- The plan for nap: a nap that comes from dark, or has no deadline yet, begins anew. -/
def planNap (machine : Machine) (policy : Policy) (now : Int) : EntryPlan :=
  let begun := if machine.current = .dark then none else machine.napDeadline
  let deadline := begun.getD (freshNapDeadline policy now)
  let backoff := if begun.isSome then machine.napBackoff else {}
  let (interval, backoff) :=
    if machine.current = .nap then backoff.again policy.napIntervals
    else backoff.next policy.napIntervals
  { machine.idlePlan with
    timer := napTimer policy interval (deadline - now).toNat
    napDeadline := some deadline
    napBackoff := backoff }

/-- The plan for maintenance, which goes back to where it came from. -/
def planMaintenance (machine : Machine) (policy : Policy) : EntryPlan :=
  let origin :=
    if machine.current = .maintenance then machine.maintenanceOrigin else machine.current
  let seconds :=
    if origin = .sleep then policy.timeouts.sleepMaintenance else policy.timeouts.napMaintenance
  { machine.idlePlan with timer := some (seconds * 1000, origin), maintenanceOrigin := origin }

/-- The plan for sleep: a sleep that comes from dark or nap begins anew. -/
def planSleep (machine : Machine) (policy : Policy) : EntryPlan :=
  let backoff :=
    if machine.current = .dark || machine.current = .nap then {} else machine.sleepBackoff
  let (interval, backoff) :=
    if machine.current = .sleep then backoff.again policy.sleepIntervals
    else backoff.next policy.sleepIntervals
  { machine.idlePlan with
    timer := if interval = 0 then none else some (interval * 1000, .maintenance)
    sleepBackoff := backoff }

/-- The plan for entering a state at `now`. -/
def planEntry (machine : Machine) (policy : Policy) (now : Int) : State → EntryPlan
  | .working => { machine.idlePlan with napDeadline := none, napBackoff := {}, sleepBackoff := {} }
  | .dark =>
    { machine.idlePlan with
      timer := (darkTarget policy).map (fun target => (policy.timeouts.dark * 1000, target)) }
  | .nap => machine.planNap policy now
  | .maintenance => machine.planMaintenance policy
  | .sleep => machine.planSleep policy

/-- The machine in its new state, with the timer that was armed for the plan. -/
def commit (machine : Machine) (plan : EntryPlan) (timer : Option TimerId) (next : State) : Machine :=
  { machine with
    current := next
    stateTimer := timer
    nextState := plan.timer.map (·.2)
    maintenanceOrigin := plan.maintenanceOrigin
    napDeadline := plan.napDeadline
    napBackoff := plan.napBackoff
    sleepBackoff := plan.sleepBackoff
    awaited := none
    blocked := false }

end Machine

/-- The machine with the host that it acts on and the state of the constraint that it asks. -/
structure Rig (σ : Type) where
  machine : Machine
  host : Host
  constraint : σ

namespace Rig

variable {σ : Type}

/-- Takes the wake lock unless the machine holds it. -/
def acquireLock (rig : Rig σ) : Rig σ :=
  if rig.machine.lockHeld then rig
  else
    let (taken, host) := rig.host.acquire
    { rig with host, machine := { rig.machine with lockHeld := taken } }

/-- Lets the wake lock go if the machine holds it. -/
def releaseLock (rig : Rig σ) : Rig σ :=
  if rig.machine.lockHeld then
    { rig with host := rig.host.release, machine := { rig.machine with lockHeld := false } }
  else rig

/-- Cancels both timers. -/
def cancelTimers (rig : Rig σ) : Rig σ :=
  { rig with
    host := (rig.host.cancel? rig.machine.stateTimer).cancel? rig.machine.phaseTimer
    machine := { rig.machine with stateTimer := none, phaseTimer := none } }

/-- Arms the timer for the next phase; if that fails the machine goes without further phases. -/
def armPhaseTimer (rig : Rig σ) : Rig σ :=
  match rig.host.arm 0 (.transitNextPhase rig.machine.current) with
  | (some id, host) => { rig with host, machine := { rig.machine with phaseTimer := some id } }
  | (none, host) => releaseLock { rig with host }

/-- What follows when a state has been entered.  If it is a new one, that is told and put on record,
and sleep keeps the wake lock for its phases. -/
def arrive (previous : State) (rig : Rig σ) : Rig σ :=
  let current := rig.machine.current
  if previous = current then rig.releaseLock
  else
    let host := (rig.host.announce (.stateTransit previous current)).audit
      (.stateTransited previous current)
    let rig : Rig σ := { rig with host, machine := { rig.machine with phase := 0 } }
    if current = .sleep then rig.armPhaseTimer else rig.releaseLock

/-- Enters a state, and says whether that was possible. -/
def enter (policy : Policy) (next : State) (rig : Rig σ) : Bool × Rig σ :=
  let previous := rig.machine.current
  let plan := rig.machine.planEntry policy rig.host.now next
  let rig := rig.cancelTimers
  match plan.timer with
  | none => (true, arrive previous { rig with machine := rig.machine.commit plan none next })
  | some (delay, _) =>
    match rig.host.arm delay (.transitNextState next) with
    | (none, host) => (false, { rig with host })
    | (some id, host) =>
      (true, arrive previous { rig with host, machine := rig.machine.commit plan (some id) next })

end Rig

end DeviceStandby
