import DeviceStandby.Json.Decode

/-!
# Standby states

The states of a device, from fully active to deepest idle, and what can be asked about the one it is
in.
-/

namespace DeviceStandby

/-- How deeply a device stands by. -/
inductive State where
  | working
  | dark
  | nap
  | maintenance
  | sleep
deriving DecidableEq, Repr, Inhabited

namespace State

/-- The states from fully active to deepest idle. -/
def all : List State := [working, dark, nap, maintenance, sleep]

/-- The name of a state. -/
def name : State → String
  | working => "working"
  | dark => "dark"
  | nap => "nap"
  | maintenance => "maintenance"
  | sleep => "sleep"

/-- The place of a state in `State.all`. -/
def index : State → Nat
  | working => 0
  | dark => 1
  | nap => 2
  | maintenance => 3
  | sleep => 4

/-- The state at a place of `State.all`. -/
def ofIndex? (index : Int) : Option State := if index < 0 then none else all[index.toNat]?

/-- The state with a name. -/
def ofName? (name : String) : Option State := all.find? (fun state => state.name = name)

/-- A state is found at its place. -/
@[simp] theorem ofIndex?_index (state : State) : ofIndex? state.index = some state := by
  cases state <;> rfl

/-- Whether a device in this state counts as standing by. -/
def inStandby (state : State) : Bool := state = sleep

/-- The document of a state. -/
def toValue (state : State) : Value := .text state.name

/-- Reads a state. -/
def ofValue? (value : Value) : Option State := value.choice?.bind ofName?

/-- Reads a state that is a member of a tagged choice. -/
def ofInnerValue? (value : Value) : Option State := value.innerChoice?.bind ofName?

end State

/-- What the state machine shows of itself. -/
structure Snapshot where
  state : State
  phase : Nat
  blocked : Bool
  evaluating : Bool
deriving DecidableEq, Repr, Inhabited

namespace Snapshot

/-- The document of a snapshot. -/
def toValue (snapshot : Snapshot) : Value :=
  .record [("state", snapshot.state.toValue), ("phase", .nat snapshot.phase),
    ("blocked", .bool snapshot.blocked), ("evaluating", .bool snapshot.evaluating)]

end Snapshot

/-- The word for a truth value in dumps and summaries. -/
def boolText : Bool → String
  | true => "true"
  | false => "false"

end DeviceStandby
