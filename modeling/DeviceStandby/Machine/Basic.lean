import DeviceStandby.Machine.Backoff
import DeviceStandby.Owner
import DeviceStandby.State

/-!
# The state machine at rest

A `Machine` is what the state machine remembers between two steps.  At most one timer is armed for
the next state and one for the next phase; a timer that fires counts only if its number is recorded
here.  The machine is `blocked` when it could not leave its state and waits for an event to try
again.
-/

namespace DeviceStandby

/-- What the machine waits for a constraint to decide. -/
inductive Awaited where
  | state (next : State)
  | phase (next : Nat)
deriving DecidableEq, Repr

/-- What the state machine remembers. -/
structure Machine where
  current : State := .working
  phase : Nat := 0
  blocked : Bool := false
  screenOn : Bool := true
  charging : Bool := false
  /-- Where the state timer leads. -/
  nextState : Option State := none
  stateTimer : Option TimerId := none
  phaseTimer : Option TimerId := none
  awaited : Option Awaited := none
  /-- The state that maintenance goes back to. -/
  maintenanceOrigin : State := .nap
  /-- When nap gives way to sleep, on the clock of the timers. -/
  napDeadline : Option Int := none
  napBackoff : Backoff := {}
  sleepBackoff : Backoff := {}
  /-- Whether the machine holds the wake lock. -/
  lockHeld : Bool := false
deriving DecidableEq, Repr, Inhabited

namespace Machine

/-- The last phase of sleep, in which the wake lock has been let go. -/
def finalPhase : Nat := 2

/-- What the machine shows of itself. -/
def snapshot (machine : Machine) : Snapshot where
  state := machine.current
  phase := machine.phase
  blocked := machine.blocked
  evaluating := machine.awaited.isSome

/-- The listing of the machine. -/
def dump (machine : Machine) : String :=
  let next := match machine.nextState with
    | some state => "next state: " ++ state.name ++ "\n"
    | none => ""
  "current state: " ++ machine.current.name ++ "\n"
    ++ "current phase: " ++ toString machine.phase ++ "\n"
    ++ "blocked: " ++ boolText machine.blocked ++ "\n"
    ++ "evaluating: " ++ boolText machine.awaited.isSome ++ "\n"
    ++ next
    ++ "screen on: " ++ boolText machine.screenOn
    ++ ", charging: " ++ boolText machine.charging ++ "\n"

end Machine

end DeviceStandby
