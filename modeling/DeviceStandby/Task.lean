import DeviceStandby.Message

/-!
# Tasks

`TimerTask` is what a timer is armed for; `Task` is an item of the queue that the service works off
in order.
-/

namespace DeviceStandby

/-- What a timer does when it fires. -/
inductive TimerTask where
  /-- Leave the state `source` for the next one. -/
  | transitNextState (source : State)
  /-- Go to the next phase of a state. -/
  | transitNextPhase (state : State)
  /-- Revoke what has expired of an owner's exemptions. -/
  | revokeExpired (uid : Uid) (name : String) (mask : Mask)
  /-- Day turns to night or night to day. -/
  | dayNightSwitch
deriving DecidableEq, Repr

namespace TimerTask

/-- The name of a timer task. -/
def label : TimerTask → String
  | transitNextState _ => "transit_next_state"
  | transitNextPhase _ => "transit_next_phase"
  | revokeExpired _ _ _ => "revoke_expired"
  | dayNightSwitch => "day_night_switch"

/-- The document of a timer task. -/
def toValue (task : TimerTask) : Value :=
  .withTag "type" task.label <|
    match task with
    | transitNextState source => [("from", source.toValue)]
    | transitNextPhase state => [("state", state.toValue)]
    | revokeExpired uid name mask =>
      [("uid", .int uid), ("name", .text name), ("allow_type", mask.toValue)]
    | dayNightSwitch => []

/-- Reads a timer task. -/
def ofValue? (value : Value) : Option TimerTask := do
  let (name, rest) ← value.tagged? "type"
  if name = "transit_next_state" then
    let members ← rest.members? [("from", .required)]
    return .transitNextState (← Value.need? members "from" State.ofInnerValue?)
  else if name = "transit_next_phase" then
    let members ← rest.members? [("state", .required)]
    return .transitNextPhase (← Value.need? members "state" State.ofInnerValue?)
  else if name = "revoke_expired" then
    let members ← rest.members? [("uid", .required), ("name", .required), ("allow_type", .required)]
    return .revokeExpired (← Value.need? members "uid" (Value.int? .int32))
      (← Value.need? members "name" Value.text?) (← Value.need? members "allow_type" Mask.ofValue?)
  else if name = "day_night_switch" then if rest.isBare then return .dayNightSwitch else none
  else none

end TimerTask

/-- An item of the queue. -/
inductive Task where
  | message (body : Message)
  | timer (id : TimerId) (task : TimerTask)
  /-- A constraint that answered late has decided. -/
  | evaluationFinished (passed : Bool)
  /-- Somebody waits for a snapshot of the state machine. -/
  | snapshot
deriving DecidableEq

namespace Task

/-- The document of a task. -/
def toValue : Task → Value
  | message body => .record [("message", body.toValue)]
  | timer id task => .record [("timer", .nat id), ("task", task.toValue)]
  | evaluationFinished passed => .record [("evaluation_finished", .bool passed)]
  | snapshot => .record [("snapshot", .bool true)]

/-- Reads a task; a request for a snapshot cannot be read. -/
def ofValue? (value : Value) : Option Task :=
  match value.member? "message", value.member? "timer", value.member? "evaluation_finished" with
  | some body, _, _ => (Message.ofValue? body).map .message
  | none, some id, _ => do
    let id ← id.nat? .word64
    let task ← (value.member? "task").bind TimerTask.ofValue?
    return .timer id task
  | none, none, some passed => passed.bool?.map .evaluationFinished
  | none, none, none => none

end Task

end DeviceStandby
