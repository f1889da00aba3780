import DeviceStandby.DeviceState
import DeviceStandby.Json.Reader
import DeviceStandby.Message

/-!
# System events

What the host observes: screen and charger, calls and peripherals, uninstalled apps, clock changes.
An event may carry a device state, a message, or both; `SystemEvent.deviceState` and
`SystemEvent.message` say which.  Events arrive as lines of JSON.
-/

namespace DeviceStandby

/-- An observation of the host. -/
inductive SystemEvent where
  | screenStatus (on : Bool)
  | chargingStatus (charging : Bool)
  | usbDevice (attached : Bool)
  | callStateChanged (state : Int)
  | wifiP2pStateChanged (state : Int)
  | powerModeChanged (mode : Int)
  | bootCompleted
  | thermalScenario (scenario : Int) (sceneInfo : String)
  | appUninstalled (uid : Uid) (name : String)
  | timeChanged
  | timezoneChanged
deriving DecidableEq, Repr

namespace SystemEvent

/-- The activity that an event reports on, and whether it goes on. -/
def deviceState : SystemEvent → Option (DeviceKind × Bool)
  | callStateChanged state => some (.telephone, callActive state)
  | wifiP2pStateChanged state => some (.wifiP2p, p2pActive state)
  | usbDevice attached => some (.peripheral, attached)
  | _ => none

/-- The message that an event is delivered as; call and P2P states are not delivered. -/
def message : SystemEvent → Option Message
  | screenStatus on => some (.event (if on then Action.screenOn else Action.screenOff))
  | chargingStatus charging =>
    some (.event (if charging then Action.charging else Action.discharging))
  | usbDevice attached => some (.event (if attached then Action.usbAttached else Action.usbDetached))
  | callStateChanged _ => none
  | wifiP2pStateChanged _ => none
  | powerModeChanged mode =>
    some (.event Action.powerSaveModeChanged [("current_power_mode", .int mode)])
  | bootCompleted => some (.event Action.bootCompleted)
  | thermalScenario scenario sceneInfo =>
    some (.of .sceneReport [("scenario", .int scenario), ("sceneInfo", .text sceneInfo)])
  | appUninstalled uid name =>
    some (.event Action.packageRemoved [("uid", .int uid), ("name", .text name)])
  | timeChanged => some (.event Action.timeChanged)
  | timezoneChanged => some (.event Action.timezoneChanged)

/-! ## Documents -/

/-- The document of an event. -/
def toValue : SystemEvent → Value
  | screenStatus on => .withTag "event" "screen_status" [("on", .bool on)]
  | chargingStatus charging => .withTag "event" "charging_status" [("charging", .bool charging)]
  | usbDevice attached => .withTag "event" "usb_device" [("attached", .bool attached)]
  | callStateChanged state => .withTag "event" "call_state_changed" [("state", .int state)]
  | wifiP2pStateChanged state => .withTag "event" "wifi_p2p_state_changed" [("state", .int state)]
  | powerModeChanged mode => .withTag "event" "power_mode_changed" [("mode", .int mode)]
  | bootCompleted => .withTag "event" "boot_completed" []
  | thermalScenario scenario sceneInfo =>
    .withTag "event" "thermal_scenario" [("scenario", .int scenario), ("scene_info", .text sceneInfo)]
  | appUninstalled uid name =>
    .withTag "event" "app_uninstalled" [("uid", .int uid), ("name", .text name)]
  | timeChanged => .withTag "event" "time_changed" []
  | timezoneChanged => .withTag "event" "timezone_changed" []

/-- Reads the one member of an event. -/
def single? {α : Type} (rest : Value) (name : String) (read : Value → Option α) : Option α := do
  let members ← rest.members? [(name, .required)]
  Value.need? members name read

/-- Reads an event. -/
def ofValue? (value : Value) : Option SystemEvent := do
  let (name, rest) ← value.tagged? "event"
  if name = "screen_status" then return .screenStatus (← single? rest "on" Value.bool?)
  else if name = "charging_status" then
    return .chargingStatus (← single? rest "charging" Value.bool?)
  else if name = "usb_device" then return .usbDevice (← single? rest "attached" Value.bool?)
  else if name = "call_state_changed" then
    return .callStateChanged (← single? rest "state" (Value.int? .int32))
  else if name = "wifi_p2p_state_changed" then
    return .wifiP2pStateChanged (← single? rest "state" (Value.int? .int32))
  else if name = "power_mode_changed" then
    return .powerModeChanged (← single? rest "mode" (Value.int? .int64))
  else if name = "thermal_scenario" then
    let members ← rest.members? [("scenario", .required), ("scene_info", .required)]
    return .thermalScenario (← Value.need? members "scenario" (Value.int? .int64))
      (← Value.need? members "scene_info" Value.text?)
  else if name = "app_uninstalled" then
    let members ← rest.members? [("uid", .required), ("name", .required)]
    return .appUninstalled (← Value.need? members "uid" (Value.int? .int32))
      (← Value.need? members "name" Value.text?)
  else if !rest.isBare then none
  else if name = "boot_completed" then return .bootCompleted
  else if name = "time_changed" then return .timeChanged
  else if name = "timezone_changed" then return .timezoneChanged
  else none

/-! ## Lines -/

/-- What a line of an event source holds. -/
inductive Line where
  /-- A blank line or a comment. -/
  | skipped
  | malformed
  | event (event : SystemEvent)
deriving DecidableEq, Repr

/-- Reads a line.  Blank lines, and lines whose first character that is no blank is `#`, hold
nothing. -/
def readLine (line : List Char) : Line :=
  match trimChars line with
  | [] => .skipped
  | '#' :: _ => .skipped
  | text =>
    match (Json.parse? (String.ofList text)).bind ofValue? with
    | some event => .event event
    | none => .malformed

end SystemEvent

end DeviceStandby
