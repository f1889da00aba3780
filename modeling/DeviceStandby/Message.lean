import DeviceStandby.Json.Decode
import DeviceStandby.Request
import DeviceStandby.State
import DeviceStandby.Text.Blank

/-!
# Messages

A message has a kind, an action if it reports a common event, and named parameters.  It is delivered
once to every role of the service.  Parameters are documents; `Message.int?` and its siblings read
them as the receivers do.
-/

namespace DeviceStandby

/-- What a message reports. -/
inductive MessageKind where
  | stateTransit
  | phaseTransit
  | allowListChanged
  | processStateChanged
  | bgTaskStatusChanged
  | commonEvent
  | deviceStateChanged
  | resCtrlConditionChanged
  | sceneReport
deriving DecidableEq, Repr, Inhabited

namespace MessageKind

/-- All kinds of message. -/
def all : List MessageKind :=
  [stateTransit, phaseTransit, allowListChanged, processStateChanged, bgTaskStatusChanged,
    commonEvent, deviceStateChanged, resCtrlConditionChanged, sceneReport]

/-- The name of a kind. -/
def name : MessageKind → String
  | stateTransit => "state_transit"
  | phaseTransit => "phase_transit"
  | allowListChanged => "allow_list_changed"
  | processStateChanged => "process_state_changed"
  | bgTaskStatusChanged => "bg_task_status_changed"
  | commonEvent => "common_event"
  | deviceStateChanged => "device_state_changed"
  | resCtrlConditionChanged => "res_ctrl_condition_changed"
  | sceneReport => "scene_report"

/-- Reads a kind. -/
def ofValue? (value : Value) : Option MessageKind :=
  value.choice?.bind (fun name => all.find? (fun kind => kind.name = name))

end MessageKind

/-! ## Actions of common events -/

namespace Action

/-- The screen was turned on. -/
def screenOn : String := "usual.event.SCREEN_ON"

/-- The screen was turned off. -/
def screenOff : String := "usual.event.SCREEN_OFF"

/-- The device started to charge. -/
def charging : String := "usual.event.CHARGING"

/-- The device stopped charging. -/
def discharging : String := "usual.event.DISCHARGING"

/-- A device was attached over USB. -/
def usbAttached : String := "usual.event.hardware.usb.action.USB_DEVICE_ATTACHED"

/-- A device was detached from USB. -/
def usbDetached : String := "usual.event.hardware.usb.action.USB_DEVICE_DETACHED"

/-- The power-saving mode was switched. -/
def powerSaveModeChanged : String := "usual.event.POWER_SAVE_MODE_CHANGED"

/-- The system has finished booting. -/
def bootCompleted : String := "usual.event.BOOT_COMPLETED"

/-- An installed package was removed. -/
def packageRemoved : String := "usual.event.PACKAGE_REMOVED"

/-- The wall clock was set. -/
def timeChanged : String := "usual.event.TIME_CHANGED"

/-- The time zone was changed. -/
def timezoneChanged : String := "usual.event.TIMEZONE_CHANGED"

end Action

/-! ## Messages -/

/-- What is delivered to the roles of the service. -/
structure Message where
  kind : MessageKind
  action : Option String := none
  params : Table Value := Table.empty
deriving DecidableEq

namespace Message

/-- A message of a kind with parameters. -/
def of (kind : MessageKind) (params : List (String × Value)) : Message :=
  { kind, params := Table.ofList params }

/-- A common event with parameters. -/
def event (action : String) (params : List (String × Value) := []) : Message :=
  { kind := .commonEvent, action := some action, params := Table.ofList params }

/-- Whether the message reports the common event `action`. -/
def reports (message : Message) (action : String) : Bool :=
  message.kind = .commonEvent && message.action = some action

/-- The integer under a parameter, which may also be written as a text with blanks around it. -/
def int? (message : Message) (key : String) : Option Int :=
  match message.params.get? key with
  | some (.number (.int value)) => Width.int64.check? value
  | some (.text text) => Width.int64.read? (trimChars text.toList)
  | _ => none

/-- The text under a parameter. -/
def text? (message : Message) (key : String) : Option String :=
  (message.params.get? key).bind Value.text?

/-- The truth value under a parameter. -/
def bool? (message : Message) (key : String) : Option Bool :=
  (message.params.get? key).bind Value.bool?

/-! ## The messages of the service -/

/-- The state has changed. -/
def stateTransit (previous current : State) : Message :=
  of .stateTransit [("previous_state", .nat previous.index), ("current_state", .nat current.index)]

/-- The phase of a state has changed. -/
def phaseTransit (state : State) (previous current : Nat) : Message :=
  of .phaseTransit [("current_state", .nat state.index), ("previous_phase", .nat previous),
    ("current_phase", .nat current)]

/-- Kinds of resource were added to, or taken from, what an owner is exempted from. -/
def allowListChanged (uid : Uid) (name : String) (mask : Mask) (added : Bool) : Message :=
  of .allowListChanged [("uid", .int uid), ("name", .text name), ("allowType", mask.toValue),
    ("added", .bool added)]

/-- The condition in effect has changed. -/
def conditionChanged (condition : Mask) : Message :=
  of .resCtrlConditionChanged [("res_ctrl_condition", condition.toValue)]

/-- A device state, given by its number, has changed. -/
def deviceStateChanged (kind : Int) (enabled : Bool) : Message :=
  of .deviceStateChanged [("DIS_COMP_TYPE", .int kind), ("DIS_COMP_STATE", .bool enabled)]

/-- Scheduled work has started or ended. -/
def workStatusChanged (started : Bool) (uid : Uid) (name : String) : Message :=
  of .bgTaskStatusChanged [("type", .text "work_scheduler"), ("started", .bool started),
    ("uid", .int uid), ("name", .text name)]

/-- A process was created or has ended. -/
def processStateChanged (uid : Uid) (pid : Pid) (name : String) (created : Bool) : Message :=
  of .processStateChanged [("uid", .int uid), ("pid", .int pid), ("name", .text name),
    ("isCreated", .bool created)]

/-! ## Documents -/

/-- The document of a message. -/
def toValue (message : Message) : Value :=
  .record ([("kind", .text message.kind.name)]
    ++ (message.action.map (fun action => ("action", Value.text action))).toList
    ++ [("params", .record message.params.entries)])

/-- Reads the parameters of a message. -/
def paramsOfValue? : Value → Option (Table Value)
  | .record members => some (Table.ofList members)
  | _ => none

/-- Reads a message. -/
def ofValue? (value : Value) : Option Message := do
  let members ← value.members? [("kind", .required), ("action", .defaulted),
    ("params", .defaulted)]
  return {
    kind := ← Value.need? members "kind" MessageKind.ofValue?
    action := ← Value.want? members "action" Value.text?
    params := ← Value.wantOr? members "params" Table.empty paramsOfValue? }

end Message

end DeviceStandby
