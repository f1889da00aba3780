import DeviceStandby.Toml.Section
import DeviceStandby.Toml.Scalar

/-!
# Reading TOML

`Toml.parse?` reads a configuration text of TOML 1.0 as one document.  A byte-order mark at its
start is skipped.  Lists and inline records nest at most `maxDepth` deep, and a dotted name has at
most `maxDepth` parts.
-/

namespace DeviceStandby.Toml

/-- How deep lists and inline records may nest, and how many parts a name may have. -/
def maxDepth : Nat := 79

/-! ## Values -/

mutual

/-- Reads a value; `depth` levels of nesting are left. -/
def value? : Nat → Nat → List Char → Option (Value × List Char)
  | 0, _, _ => none
  | _ + 1, _, [] => none
  | fuel + 1, depth, c :: rest =>
    if c = '"' ∨ c = '\'' then (quoted? c rest).map (fun (value, rest) => (.text value, rest))
    else if c = '[' then if depth = 0 then none else items? fuel (depth - 1) [] rest
    else if c = '\x7b' then
      if depth = 0 then none
      else match skipGap rest with
        | '\x7d' :: rest => some (.record [], rest)
        | rest => members? fuel (depth - 1) [] rest
    else if c = 't' then
      (Json.after? ['r', 'u', 'e'] rest).map (fun rest => (.bool true, rest))
    else if c = 'f' then
      (Json.after? ['a', 'l', 's', 'e'] rest).map (fun rest => (.bool false, rest))
    else plain? (c :: rest)

/-- Reads the items of a list up to its closing bracket. -/
def items? : Nat → Nat → List Value → List Char → Option (Value × List Char)
  | 0, _, _, _ => none
  | fuel + 1, depth, done, text =>
    match skipLines (text.length + 1) text with
    | ']' :: rest => some (.list done.reverse, rest)
    | text =>
      match value? fuel depth text with
      | none => none
      | some (item, rest) =>
        match skipLines (rest.length + 1) rest with
        | ',' :: rest => items? fuel depth (item :: done) rest
        | ']' :: rest => some (.list (item :: done).reverse, rest)
        | _ => none

/-- Reads the members of an inline record up to its closing brace. -/
def members? : Nat → Nat → Members → List Char → Option (Value × List Char)
  | 0, _, _, _ => none
  | fuel + 1, depth, done, text =>
    match name? maxDepth text with
    | none => none
    | some (path, rest) =>
      match path.getLast?, rest with
      | some name, '=' :: rest =>
        match value? fuel depth (skipGap rest) with
        | none => none
        | some (value, rest) =>
          match done.put path.dropLast name value with
          | none => none
          | some done =>
            match skipGap rest with
            | ',' :: rest => members? fuel depth done rest
            | '\x7d' :: rest => some (.record (membersToValues done), rest)
            | _ => none
      | _, _ => none

end

/-! ## Statements -/

/-- Reads the statements of a text in turn; `header` is the path of the section that is open. -/
def statements? : Nat → Members → List String → List Char → Option Members
  | 0, _, _, _ => none
  | fuel + 1, root, header, text =>
    match skipGap text with
    | [] => some root
    | '[' :: '[' :: rest =>
      match name? maxDepth rest with
      | some (path, ']' :: ']' :: rest) =>
        match path.getLast? with
        | none => none
        | some name =>
          match Members.alter false (fun _ => Members.appendSection name) path.dropLast .header
              root, afterLine? rest with
          | some root, some rest => statements? fuel root path rest
          | _, _ => none
      | _ => none
    | '[' :: rest =>
      match name? maxDepth rest with
      | some (path, ']' :: rest) =>
        match path.getLast? with
        | none => none
        | some name =>
          match Members.alter false (fun _ => Members.openSection name) path.dropLast .header
              root, afterLine? rest with
          | some root, some rest => statements? fuel root path rest
          | _, _ => none
      | _ => none
    | text =>
      match afterLine? text with
      | some rest => statements? fuel root header rest
      | none =>
        match name? maxDepth text with
        | some (path, '=' :: rest) =>
          match path.getLast?, value? (text.length + 1) maxDepth (skipGap rest) with
          | some name, some (value, rest) =>
            match Members.alter false (fun _ => Members.put path.dropLast name value) header
                .header root, afterLine? rest with
            | some root, some rest => statements? fuel root header rest
            | _, _ => none
          | _, _ => none
        | _ => none

/-- The document that a configuration text holds. -/
def parse? (text : String) : Option Value :=
  let chars := match text.toList with
    | c :: rest => if c.toNat = 0xFEFF then rest else c :: rest
    | [] => []
  (statements? (chars.length + 1) [] [] chars).map (fun root => .record (membersToValues root))

end DeviceStandby.Toml
