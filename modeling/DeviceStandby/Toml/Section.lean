import DeviceStandby.Value

/-!
# Sections of a configuration text

A configuration text builds a tree of named nodes from three kinds of statement: a header `[a.b]`
opens a section, a header `[[a.b]]` appends an item to a list of sections, and `a.b = v` puts a
value.  A section is made at most once: `Origin` remembers how it came about, and the statements
that would open it again, or reach into it by a dotted name, are refused.
-/

namespace DeviceStandby.Toml

/-- How a section came about. -/
inductive Origin where
  /-- On the way to a section below it that a header opened. -/
  | passage
  /-- From the front part of a dotted name. -/
  | dotted
  /-- From a header of its own. -/
  | header
deriving DecidableEq, Repr

/-- What stands under a name. -/
inductive Node where
  /-- A value, which no later statement can reach into. -/
  | leaf (value : Value)
  | section (origin : Origin) (members : List (String × Node))
  | sections (items : List (List (String × Node)))
deriving Repr

/-- The nodes of one section, in the order in which their names first occur. -/
abbrev Members := List (String × Node)

namespace Members

/-- The node under `name`, if any. -/
def find? (name : String) (members : Members) : Option Node := Table.lookup name members

/-- Puts `node` under `name`, at its old place if the name is there already. -/
def set (name : String) (node : Node) : Members → Members
  | [] => [(name, node)]
  | (key, old) :: rest =>
    if key = name then (name, node) :: rest else (key, old) :: set name node rest

/-- Changes the section at the end of a path, opening the missing ones on the way.  A path of
sections goes on in the last item of a list of sections; a dotted name must not enter a section that
a header opened. -/
def alter (byDots : Bool) (change : Origin → Members → Option Members) :
    List String → Origin → Members → Option Members
  | [], origin, members => change origin members
  | name :: path, _, members =>
    match members.find? name with
    | none =>
      let origin := if byDots then Origin.dotted else Origin.passage
      (alter byDots change path origin []).map
        (fun inner => members.set name (.section origin inner))
    | some (.leaf _) => none
    | some (.section origin inner) =>
      if byDots && origin == .header then none
      else (alter byDots change path origin inner).map
        (fun inner => members.set name (.section origin inner))
    | some (.sections items) =>
      match items.getLast? with
      | none => none
      | some last =>
        (alter byDots change path .header last).map
          (fun last => members.set name (.sections (items.dropLast ++ [last])))

/-- Opens the section `name` for a header. -/
def openSection (name : String) (members : Members) : Option Members :=
  match members.find? name with
  | none => some (members.set name (.section .header []))
  | some (.section .passage inner) => some (members.set name (.section .header inner))
  | _ => none

/-- Appends an item to the list of sections `name`. -/
def appendSection (name : String) (members : Members) : Option Members :=
  match members.find? name with
  | none => some (members.set name (.sections [[]]))
  | some (.sections items) => some (members.set name (.sections (items ++ [[]])))
  | _ => none

/-- Puts a value under a dotted name, which must be new; `path` is its front part. -/
def put (path : List String) (name : String) (value : Value) (members : Members) :
    Option Members :=
  alter true (fun origin inner =>
    if !path.isEmpty && origin != .dotted then none
    else match inner.find? name with
      | none => some (inner.set name (.leaf value))
      | some _ => none) path .header members

end Members

mutual

/-- The document that a node stands for. -/
def Node.toValue : Node → Value
  | .leaf value => value
  | .section _ members => .record (membersToValues members)
  | .sections items => .list (itemsToValues items)

/-- The documents of the nodes, under their names. -/
def membersToValues : List (String × Node) → List (String × Value)
  | [] => []
  | (name, node) :: rest => (name, node.toValue) :: membersToValues rest

/-- The documents of a list of sections. -/
def itemsToValues : List (List (String × Node)) → List Value
  | [] => []
  | members :: rest => .record (membersToValues members) :: itemsToValues rest

end

end DeviceStandby.Toml
