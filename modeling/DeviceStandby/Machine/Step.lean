import DeviceStandby.Machine.Constraint
import DeviceStandby.Machine.Entry

/-!
# The steps of the state machine

The machine is driven by events, by its timers and by late answers of the constraint.

```text
working -> dark -> nap <-> maintenance
            |       |           |
            |       v           |
            +---> sleep <-------+
```

Screen on or charging leads back to working from everywhere, and is never held up by a constraint.
A transition that is vetoed, or whose timer cannot be armed, leaves the machine blocked in its
state; the next event then makes it enter that state once more.
-/

namespace DeviceStandby.Rig

variable {σ : Type}

/-- Stays in the current state until an event comes. -/
def block (rig : Rig σ) : Rig σ :=
  releaseLock { rig with machine := { rig.machine with blocked := true, awaited := none } }

/-- Enters a state, or blocks if that is not possible. -/
def enterOrBlock (policy : Policy) (next : State) (rig : Rig σ) : Rig σ :=
  match rig.enter policy next with
  | (true, rig) => rig
  | (false, rig) => rig.block

/-! ## Transitions -/

/-- The question whether a state may be entered. -/
def stateQuestion (machine : Machine) (next : State) : Question :=
  ⟨machine.current, machine.phase, next, 0⟩

/-- The question whether the next phase may be entered. -/
def phaseQuestion (machine : Machine) : Question :=
  ⟨machine.current, machine.phase, machine.current, machine.phase + 1⟩

/-- Asks the constraint. -/
def ask (judge : Constraint σ) (question : Question) (rig : Rig σ) : Verdict × Rig σ :=
  let (verdict, state) := judge.start question rig.host.devices rig.constraint
  (verdict, { rig with constraint := state })

/-- Enters a state after asking the constraint, which has a say in nap and sleep only. -/
def transitTo (judge : Constraint σ) (policy : Policy) (next : State) (rig : Rig σ) : Rig σ :=
  if next = .nap || next = .sleep then
    match rig.ask judge (stateQuestion rig.machine next) with
    | (.pass, rig) => rig.enterOrBlock policy next
    | (.veto _, rig) => rig.block
    | (.pending, rig) =>
      { rig with machine := { rig.machine with awaited := some (.state next) } }
  else rig.enterOrBlock policy next

/-- Leaves for the next state when its time has come. -/
def transit (judge : Constraint σ) (policy : Policy) (next : State) (rig : Rig σ) : Rig σ :=
  let rig := rig.acquireLock
  let rig : Rig σ :=
    if judge.isEvaluating rig.constraint || rig.machine.awaited.isSome then
      { rig with
        constraint := judge.stop rig.constraint
        machine := { rig.machine with awaited := none } }
    else rig
  rig.transitTo judge policy next

/-! ## Phases -/

/-- Enters a phase. -/
def enterPhase (next : Nat) (rig : Rig σ) : Rig σ :=
  let host :=
    rig.host.announce (.phaseTransit rig.machine.current rig.machine.phase next)
  let rig : Rig σ := { rig with host, machine := { rig.machine with phase := next } }
  if next ≥ Machine.finalPhase then rig.releaseLock else rig.armPhaseTimer

/-- Enters the next phase after asking the constraint. -/
def advancePhase (judge : Constraint σ) (rig : Rig σ) : Rig σ :=
  let next := rig.machine.phase + 1
  match rig.ask judge (phaseQuestion rig.machine) with
  | (.pass, rig) => rig.enterPhase next
  | (.veto _, rig) => rig.releaseLock
  | (.pending, rig) => { rig with machine := { rig.machine with awaited := some (.phase next) } }

/-! ## Events -/

/-- Goes back to working. -/
def wakeUp (judge : Constraint σ) (policy : Policy) (rig : Rig σ) : Rig σ :=
  if rig.machine.current = .working && !rig.machine.blocked then rig
  else
    let constraint :=
      if judge.isEvaluating rig.constraint then judge.stop rig.constraint else rig.constraint
    enterOrBlock policy .working
      { rig with constraint, machine := { rig.machine with awaited := none } }

/-- Whether the machine is to leave working: the screen is off and no charger is connected. -/
def mayGoDark (machine : Machine) : Bool :=
  machine.current = .working && !machine.screenOn && !machine.charging

/-- Enters the current state once more if the machine is blocked; it stays blocked if that is not
possible. -/
def retryIfBlocked (policy : Policy) (rig : Rig σ) : Rig σ :=
  if rig.machine.blocked then (rig.enter policy rig.machine.current).2 else rig

/-- Goes dark if the device is idle, and else tries to leave a block. -/
def goDarkOrRetry (policy : Policy) (rig : Rig σ) : Rig σ :=
  if mayGoDark rig.machine then rig.enterOrBlock policy .dark else rig.retryIfBlocked policy

/-- Takes note of a message. -/
def handleEvent (judge : Constraint σ) (policy : Policy) (message : Message) (rig : Rig σ) :
    Rig σ :=
  match message.kind with
  | .commonEvent =>
    if message.action = some Action.screenOn then
      wakeUp judge policy { rig with machine := { rig.machine with screenOn := true } }
    else if message.action = some Action.charging then
      wakeUp judge policy { rig with machine := { rig.machine with charging := true } }
    else if message.action = some Action.screenOff then
      goDarkOrRetry policy { rig with machine := { rig.machine with screenOn := false } }
    else if message.action = some Action.discharging then
      goDarkOrRetry policy { rig with machine := { rig.machine with charging := false } }
    else rig.retryIfBlocked policy
  | .deviceStateChanged => rig.retryIfBlocked policy
  | _ => rig

/-! ## Timers and late answers -/

/-- Takes note of a timer.  Timers that the machine did not arm, or armed for another state, are
stale. -/
def onTimer (judge : Constraint σ) (policy : Policy) (id : TimerId) (task : TimerTask)
    (rig : Rig σ) : Rig σ :=
  match task with
  | .transitNextState source =>
    if rig.machine.stateTimer = some id && source = rig.machine.current then
      let machine := { rig.machine with stateTimer := none, nextState := none }
      match rig.machine.nextState with
      | some next => transit judge policy next { rig with machine }
      | none => { rig with machine }
    else rig
  | .transitNextPhase state =>
    if rig.machine.phaseTimer = some id && state = rig.machine.current then
      advancePhase judge { rig with machine := { rig.machine with phaseTimer := none } }
    else rig
  | .revokeExpired _ _ _ | .dayNightSwitch => rig

/-- Takes note of the late answer of a constraint. -/
def endEvaluation (policy : Policy) (passed : Bool) (rig : Rig σ) : Rig σ :=
  let awaited := rig.machine.awaited
  let rig : Rig σ := { rig with machine := { rig.machine with awaited := none } }
  match awaited with
  | none => rig
  | some (.state next) => if passed then rig.enterOrBlock policy next else rig.block
  | some (.phase next) => if passed then rig.enterPhase next else rig.releaseLock

/-! ## Start and stop -/

/-- Makes the machine ready to work.  What it knows of screen, charger and wake lock stays. -/
def init (rig : Rig σ) : Rig σ :=
  let rig := rig.cancelTimers
  { rig with
    machine := { rig.machine with
      current := .working
      phase := 0
      blocked := false
      awaited := none
      nextState := none
      napDeadline := none
      napBackoff := {}
      sleepBackoff := {} } }

/-- Makes the machine rest: no timer is left and the wake lock is let go. -/
def uninit (rig : Rig σ) : Rig σ :=
  let rig := rig.cancelTimers
  releaseLock { rig with machine := { rig.machine with awaited := none } }

end DeviceStandby.Rig
