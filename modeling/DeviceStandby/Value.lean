import DeviceStandby.Data.Table
import DeviceStandby.Number.Shortest

/-!
# Documents

A `Value` is a tree of scalars, lists and records: what a stored document, a message parameter, an
event line or a configuration file holds.  A record keeps its members in the order in which they
were written, a name written twice included, because a reader of typed data has to refuse such a
record; `Value.canonical` is the form in which a document is kept, with the members in order of
their names and the last of several members with one name.

A number is an integer, or a fraction of double precision, which is kept as its shortest decimal.
Whether a number of up to 64 bits counts as an integer depends on its spelling alone: `5.0` does not.
-/

namespace DeviceStandby

/-- A number of a document. -/
inductive Number where
  /-- A number written without fraction and exponent. -/
  | int (value : Int)
  /-- The number `mantissa * 10 ^ exponent`, or its negative. -/
  | real (negative : Bool) (mantissa : Nat) (exponent : Int)
deriving DecidableEq, Repr, Inhabited

/-- The fraction that is a double, or its negative. -/
def Number.ofDouble (negative : Bool) (d : Double) : Number :=
  let (mantissa, exponent) := d.shortest
  .real negative mantissa exponent

/-- A tree of scalars, lists and records. -/
inductive Value where
  | null
  | bool (value : Bool)
  | number (value : Number)
  | text (value : String)
  | list (items : List Value)
  | record (members : List (String × Value))
deriving Repr, Inhabited

namespace Value

/-- The integer `value` as a document. -/
abbrev int (value : Int) : Value := .number (.int value)

/-- The natural number `value` as a document. -/
abbrev nat (value : Nat) : Value := .int value

/-- The document, or `null` where there is none. -/
def ofOption {α : Type} (write : α → Value) : Option α → Value
  | none => .null
  | some value => write value

/-! ## Equality -/

mutual

/-- Decides equality of two documents. -/
def decEq : (a b : Value) → Decidable (a = b)
  | .null, .null => isTrue rfl
  | .bool a, .bool b => decidable_of_iff (a = b) (by simp)
  | .number a, .number b => decidable_of_iff (a = b) (by simp)
  | .text a, .text b => decidable_of_iff (a = b) (by simp)
  | .list a, .list b =>
    match decEqItems a b with
    | isTrue h => isTrue (by rw [h])
    | isFalse h => isFalse (by simpa using h)
  | .record a, .record b =>
    match decEqMembers a b with
    | isTrue h => isTrue (by rw [h])
    | isFalse h => isFalse (by simpa using h)
  | .null, .bool _ | .null, .number _ | .null, .text _ | .null, .list _ | .null, .record _
  | .bool _, .null | .bool _, .number _ | .bool _, .text _ | .bool _, .list _ | .bool _, .record _
  | .number _, .null | .number _, .bool _ | .number _, .text _ | .number _, .list _
  | .number _, .record _
  | .text _, .null | .text _, .bool _ | .text _, .number _ | .text _, .list _ | .text _, .record _
  | .list _, .null | .list _, .bool _ | .list _, .number _ | .list _, .text _ | .list _, .record _
  | .record _, .null | .record _, .bool _ | .record _, .number _ | .record _, .text _
  | .record _, .list _ => isFalse (by simp)

/-- Decides equality of two item lists. -/
def decEqItems : (a b : List Value) → Decidable (a = b)
  | [], [] => isTrue rfl
  | [], _ :: _ => isFalse (by simp)
  | _ :: _, [] => isFalse (by simp)
  | a :: as, b :: bs =>
    match decEq a b, decEqItems as bs with
    | isTrue h, isTrue t => isTrue (by rw [h, t])
    | isFalse h, _ => isFalse (by simp [h])
    | _, isFalse t => isFalse (by simp [t])

/-- Decides equality of two member lists. -/
def decEqMembers : (a b : List (String × Value)) → Decidable (a = b)
  | [], [] => isTrue rfl
  | [], _ :: _ => isFalse (by simp)
  | _ :: _, [] => isFalse (by simp)
  | (m, a) :: as, (n, b) :: bs =>
    match decEq a b, decEqMembers as bs with
    | isTrue h, isTrue t =>
      if e : m = n then isTrue (by rw [h, t, e]) else isFalse (by simp [e])
    | isFalse h, _ => isFalse (by simp [h])
    | _, isFalse t => isFalse (by simp [t])

end

instance : DecidableEq Value := decEq

/-! ## The form in which documents are kept -/

mutual

/-- The document with the members of each record in order of their names; of several members with
one name the last stays. -/
def canonical : Value → Value
  | .list items => .list (canonicalItems items)
  | .record members => .record (Table.ofList (canonicalMembers members)).entries
  | value => value

/-- The canonical forms of the items. -/
def canonicalItems : List Value → List Value
  | [] => []
  | item :: items => item.canonical :: canonicalItems items

/-- The canonical forms of the members, under their names. -/
def canonicalMembers : List (String × Value) → List (String × Value)
  | [] => []
  | (name, value) :: members => (name, value.canonical) :: canonicalMembers members

end

/-- The value of the first member with this name, if the document is a record that has one. -/
def member? (name : String) : Value → Option Value
  | .record members => Table.lookup name members
  | _ => none

end Value

end DeviceStandby
