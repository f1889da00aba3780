import DeviceStandby.Json.Printer
import DeviceStandby.Json.Reader

/-!
# Documents that are kept as texts

What comes back of a document that was written and is read again.  Truth values, integers and texts
come back as they were.  A fraction is evaluated anew from its digits, and the steps of that are
rounded, so its last digit may change.
-/

namespace DeviceStandby

/-- The number that is read from the text of a number. -/
def Number.stored (number : Number) : Number :=
  match number with
  | .int value => .int value
  | number =>
    match Json.number? (Json.renderNumber number).toList with
    | some (found, _) => found
    | none => number

@[simp] theorem Number.stored_int (value : Int) : (Number.int value).stored = .int value := rfl

namespace Value

mutual

/-- The document with each number as it is read from its text. -/
def restored : Value → Value
  | .number n => .number n.stored
  | .list items => .list (restoredItems items)
  | .record members => .record (restoredMembers members)
  | value => value

/-- The items with each number as it is read from its text. -/
def restoredItems : List Value → List Value
  | [] => []
  | item :: items => item.restored :: restoredItems items

/-- The members with each number as it is read from its text. -/
def restoredMembers : List (String × Value) → List (String × Value)
  | [] => []
  | (name, value) :: members => (name, value.restored) :: restoredMembers members

end

end Value

end DeviceStandby
