import DeviceStandby.Value
import DeviceStandby.Number.Width

/-!
# Reading typed data out of documents

A record of typed data is read from a document record, whose unknown members are ignored and whose
known members must not be repeated, or from a list that gives the members by position.  A member is
`required`, `optional` (it may be missing or `null`), or `defaulted` (it may be missing, also at the
end of a list).  A choice is a text, or a record with the text as its only name and `null` as its
value.  A tagged choice carries its name in one member, or as the first item of a list.
-/

namespace DeviceStandby

/-- Whether a member of a record has to be there. -/
inductive Presence where
  | required
  | optional
  | defaulted
deriving DecidableEq, Repr

namespace Value

/-! ## Scalars -/

/-- The truth value, if the document is one. -/
def bool? : Value → Option Bool
  | .bool value => some value
  | _ => none

/-- The text, if the document is one. -/
def text? : Value → Option String
  | .text value => some value
  | _ => none

/-- The integer, if the document is one of this width. -/
def int? (width : Width) : Value → Option Int
  | .number (.int value) => width.check? value
  | _ => none

/-- The integer, if the document is an unsigned one of this width. -/
def nat? (width : Width) (value : Value) : Option Nat := (value.int? width).map Int.toNat

/-- The items, if the document is a list whose items can all be read. -/
def items? {α : Type} (read : Value → Option α) : Value → Option (List α)
  | .list items => items.mapM read
  | _ => none

/-- The name of a choice without contents. -/
def choice? : Value → Option String
  | .text name => some name
  | .record [(name, .null)] => some name
  | _ => none

/-- The name of a choice without contents that is a member of a tagged choice.  There an empty
record stands for no contents too. -/
def innerChoice? : Value → Option String
  | .record [(name, .record [])] => some name
  | value => value.choice?

/-! ## Records -/

/-- The members that a list gives by position.  A `closed` list must not go on. -/
def positional? (closed : Bool) : List (String × Presence) → List Value →
    Option (List (String × Value))
  | [], [] => some []
  | [], _ :: _ => if closed then none else some []
  | (name, _) :: spec, item :: items => (positional? closed spec items).map ((name, item) :: ·)
  | (_, presence) :: spec, [] =>
    if presence = .defaulted then positional? closed spec [] else none

/-- The known members of a record or list, each at most once. -/
def members? (spec : List (String × Presence)) (value : Value) (closed : Bool := true) :
    Option (List (String × Value)) :=
  match value with
  | .record members =>
    let known := members.filter (fun entry => spec.any (fun field => field.1 = entry.1))
    if spec.all (fun field =>
        let count := known.countP (fun entry => entry.1 = field.1)
        count = 1 || (count = 0 && field.2 ≠ .required)) then some known
    else none
  | .list items => positional? closed spec items
  | _ => none

/-- Reads the member with this name. -/
def need? {α : Type} (members : List (String × Value)) (name : String) (read : Value → Option α) :
    Option α :=
  (Table.lookup name members).bind read

/-- Reads the member with this name, if it is there and not `null`. -/
def want? {α : Type} (members : List (String × Value)) (name : String) (read : Value → Option α) :
    Option (Option α) :=
  match Table.lookup name members with
  | none => some none
  | some .null => some none
  | some value => (read value).map some

/-- Reads the member with this name, or takes `fallback` where it is missing. -/
def wantOr? {α : Type} (members : List (String × Value)) (name : String) (fallback : α)
    (read : Value → Option α) : Option α :=
  match Table.lookup name members with
  | none => some fallback
  | some value => read value

/-! ## Tagged choices -/

/-- The name of a tagged choice, and what it holds beside the name. -/
def tagged? (tag : String) : Value → Option (String × Value)
  | .record members =>
    match members.filter (fun entry => entry.1 = tag) with
    | [(_, .text name)] => some (name, .record (members.filter (fun entry => entry.1 ≠ tag)))
    | _ => none
  | .list (.text name :: items) => some (name, .list items)
  | _ => none

/-- Whether what stands beside a name is nothing that the name has to account for. -/
def isBare : Value → Bool
  | .record _ => true
  | .list [] => true
  | _ => false

/-- A record with a tag in front of its members. -/
def withTag (tag name : String) (members : List (String × Value)) : Value :=
  .record ((tag, .text name) :: members)

end Value

end DeviceStandby
