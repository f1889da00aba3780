import DeviceStandby.DeviceState

/-!
# Constraints

Before it enters nap or sleep, and before each further phase of sleep, the state machine asks a
constraint.  The constraint lets it pass, vetoes the change, or answers later.  `Constraint σ` is
any constraint that keeps a state of type `σ`; `deviceVerdict` is the rule that a device in use must
not stand by.
-/

namespace DeviceStandby

/-- The change that a constraint is asked to approve. -/
structure Question where
  currentState : State
  currentPhase : Nat
  nextState : State
  nextPhase : Nat
deriving DecidableEq, Repr

/-- Whether the change is one of state, and not of phase only. -/
def Question.isStateChange (question : Question) : Bool := question.currentState ≠ question.nextState

/-- The answer of a constraint. -/
inductive Verdict where
  | pass
  | veto (reason : String)
  /-- The answer comes later, as a task. -/
  | pending
deriving DecidableEq, Repr, Inhabited

/-- What decides whether the state or the phase may change. -/
structure Constraint (σ : Type) where
  /-- Asks for a decision, given which activities go on. -/
  start : Question → DeviceStates → σ → Verdict × σ
  /-- Gives up a decision that has not been made yet. -/
  stop : σ → σ
  /-- Whether a decision has not been made yet. -/
  isEvaluating : σ → Bool

/-- Vetoes a change of state while an activity goes on. -/
def deviceVerdict (question : Question) (devices : DeviceStates) : Verdict :=
  if question.isStateChange then
    match devices.anyActive with
    | some kind => .veto (kind.label ++ " is active")
    | none => .pass
  else .pass

/-- The constraint that always answers at once, by `deviceVerdict`. -/
def Constraint.device : Constraint Unit where
  start := fun question devices _ => (deviceVerdict question devices, ())
  stop := id
  isEvaluating := fun _ => false

end DeviceStandby
