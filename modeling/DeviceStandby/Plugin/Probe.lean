import DeviceStandby.Machine.Constraint
import DeviceStandby.Owner

/-!
# An instrumented constraint and a log of calls

A `Probe` stands in for a constraint whose answers are written down beforehand, and keeps a log of
what the roles of a plug-in were called for.  It can also be told to let one call fail.
-/

namespace DeviceStandby

/-- A call of a role of a plug-in. -/
inductive RoleCall where
  | stateInit
  | stateUninit
  | stateEvent
  | stateTimer (id : TimerId)
  | stateEndEvaluation (passed : Bool)
  | strategyInit
  | strategyUninit
  | strategyEvent
  | constraintInit
  | constraintUninit
  | constraintStart (question : Question)
  | constraintStop
  | listenerInit
  | listenerStart
  | listenerStop
  /-- With the number of messages that the listener has seen afterwards. -/
  | listenerEvent (seen : Nat)
  | listenerUninit (seen : Nat)
deriving DecidableEq, Repr

/-- How a question is shown. -/
def Question.text (question : Question) : String :=
  question.currentState.name ++ "/" ++ toString question.currentPhase ++ " "
    ++ question.nextState.name ++ "/" ++ toString question.nextPhase
    ++ " change=" ++ boolText question.isStateChange

namespace RoleCall

/-- How a call is shown in the log. -/
def text : RoleCall → String
  | stateInit => "state.init"
  | stateUninit => "state.uninit"
  | stateEvent => "state.event"
  | stateTimer id => "state.timer " ++ id.text
  | stateEndEvaluation passed => "state.end_evaluation " ++ boolText passed
  | strategyInit => "strategy.init"
  | strategyUninit => "strategy.uninit"
  | strategyEvent => "strategy.event"
  | constraintInit => "constraint.init"
  | constraintUninit => "constraint.uninit"
  | constraintStart question => "constraint.start " ++ question.text
  | constraintStop => "constraint.stop"
  | listenerInit => "listener.init"
  | listenerStart => "listener.start"
  | listenerStop => "listener.stop"
  | listenerEvent seen => "listener.event seen=" ++ toString seen
  | listenerUninit seen => "listener.uninit seen=" ++ toString seen

end RoleCall

/-- The scripted constraint and the log. -/
structure Probe where
  /-- What the constraint answers; without a script it goes by `deviceVerdict`. -/
  script : Option Verdict := none
  /-- Whether the constraint claims to be evaluating. -/
  evaluating : Bool := false
  /-- The call that fails, as it is shown in the log. -/
  failing : Option String := none
  /-- The calls, the oldest first. -/
  calls : List RoleCall := []
deriving DecidableEq, Repr

namespace Probe

/-- Adds a call to the log. -/
def log (probe : Probe) (call : RoleCall) : Probe := { probe with calls := probe.calls ++ [call] }

/-- The answer to a question. -/
def verdict (probe : Probe) (question : Question) (devices : DeviceStates) : Verdict :=
  probe.script.getD (deviceVerdict question devices)

/-- The scripted constraint: it claims to be evaluating after it has answered that it will decide
later, until it is stopped or asked again. -/
def constraint : Constraint Probe where
  start := fun question devices probe =>
    let verdict := probe.verdict question devices
    (verdict, { probe.log (.constraintStart question) with evaluating := verdict = .pending })
  stop := fun probe => { probe.log .constraintStop with evaluating := false }
  isEvaluating := Probe.evaluating

end Probe

end DeviceStandby
