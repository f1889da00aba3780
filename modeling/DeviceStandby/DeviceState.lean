import DeviceStandby.State

/-!
# Device states

Activities that keep a device from deeper standby: a call, a Wi-Fi P2P session, an attached
peripheral.  `DeviceStates` remembers which of them go on.
-/

namespace DeviceStandby

/-- The activities that are watched. -/
inductive DeviceKind where
  | telephone
  | wifiP2p
  | peripheral
deriving DecidableEq, Repr, Inhabited

namespace DeviceKind

/-- The activities in the order of their numbers. -/
def all : List DeviceKind := [telephone, wifiP2p, peripheral]

/-- The number of an activity. -/
def index : DeviceKind → Nat
  | telephone => 0
  | wifiP2p => 1
  | peripheral => 2

/-- The activity with a number. -/
def ofIndex? (index : Int) : Option DeviceKind := if index < 0 then none else all[index.toNat]?

/-- The name of an activity in documents. -/
def name : DeviceKind → String
  | telephone => "telephone"
  | wifiP2p => "wifi_p2p"
  | peripheral => "peripheral"

/-- The name of an activity as the reason of a veto. -/
def label : DeviceKind → String
  | telephone => "Telephone"
  | wifiP2p => "WifiP2p"
  | peripheral => "Peripheral"

/-- An activity is found by its number. -/
@[simp] theorem ofIndex?_index (kind : DeviceKind) : ofIndex? kind.index = some kind := by
  cases kind <;> rfl

end DeviceKind

/-- Whether a reported call state means that a call goes on: all do but unknown, disconnected and
idle. -/
def callActive (state : Int) : Bool := !(state = -1 || state = 6 || state = 8)

/-- Whether a reported P2P state means that a session goes on: all do but none, idle and closed. -/
def p2pActive (state : Int) : Bool := !(state = 0 || state = 1 || state = 5)

/-- Which activities go on. -/
structure DeviceStates where
  telephone : Bool := false
  wifiP2p : Bool := false
  peripheral : Bool := false
deriving DecidableEq, Repr, Inhabited

namespace DeviceStates

/-- Whether an activity goes on. -/
def get (states : DeviceStates) : DeviceKind → Bool
  | .telephone => states.telephone
  | .wifiP2p => states.wifiP2p
  | .peripheral => states.peripheral

/-- The states after an activity began or ended. -/
def set (states : DeviceStates) (kind : DeviceKind) (enabled : Bool) : DeviceStates :=
  match kind with
  | .telephone => { states with telephone := enabled }
  | .wifiP2p => { states with wifiP2p := enabled }
  | .peripheral => { states with peripheral := enabled }

/-- The first activity that goes on. -/
def anyActive (states : DeviceStates) : Option DeviceKind :=
  DeviceKind.all.find? states.get

/-- Setting one activity leaves the others as they are. -/
theorem get_set (states : DeviceStates) (kind other : DeviceKind) (enabled : Bool) :
    (states.set kind enabled).get other = if kind = other then enabled else states.get other := by
  cases kind <;> cases other <;> rfl

/-- Records a report about the activity with a number, and says whether it is news: unknown numbers
are ignored. -/
def report (states : DeviceStates) (kind : Int) (enabled : Bool) : Bool × DeviceStates :=
  match DeviceKind.ofIndex? kind with
  | none => (false, states)
  | some kind => (states.get kind != enabled, states.set kind enabled)

end DeviceStates

end DeviceStandby
