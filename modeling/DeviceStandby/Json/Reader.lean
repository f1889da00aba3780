import DeviceStandby.Value
import DeviceStandby.Number.Width

/-!
# Reading JSON

`Json.parse?` reads a text that is one JSON document with nothing but blanks around it.  It keeps
the members of a record as they are written, repeated names included.  Lists and records nest at
most `maxDepth` deep.  An integer of at most 64 bits is an integer; a longer one, minus zero, and
every number with a fraction or an exponent is a fraction.

Fractions are evaluated in the steps that `Json.fractionValue?` and `Json.scale?` take, each of which
is rounded to double precision.  So the last digit of a fraction can differ from the nearest double,
and a number is out of range as soon as one of the steps is.
-/

namespace DeviceStandby.Json

/-- How deep lists and records may nest. -/
def maxDepth : Nat := 127

/-- The blanks between the tokens of a document. -/
def isSpace (c : Char) : Bool := c == ' ' || c == '\t' || c == '\n' || c == '\r'

/-- The text without the blanks at its start. -/
def skipSpace (text : List Char) : List Char := text.dropWhile isSpace

/-! ## Texts -/

/-- The value of a hexadecimal digit. -/
def hexDigit? (c : Char) : Option Nat :=
  if c.isDigit then some (c.toNat - '0'.toNat)
  else if 'a' ≤ c ∧ c ≤ 'f' then some (c.toNat - 'a'.toNat + 10)
  else if 'A' ≤ c ∧ c ≤ 'F' then some (c.toNat - 'A'.toNat + 10)
  else none

/-- The number that four hexadecimal digits denote, and the text after them. -/
def hexFour? : List Char → Option (Nat × List Char)
  | a :: b :: c :: d :: rest => do
    let a ← hexDigit? a
    let b ← hexDigit? b
    let c ← hexDigit? c
    let d ← hexDigit? d
    return (((a * 16 + b) * 16 + c) * 16 + d, rest)
  | _ => none

/-- The character after `\u`: four digits, or two times four that form a surrogate pair. -/
def unicode? (text : List Char) : Option (Char × List Char) := do
  let (high, rest) ← hexFour? text
  if 0xD800 ≤ high ∧ high < 0xDC00 then
    match rest with
    | '\\' :: 'u' :: rest =>
      let (low, rest) ← hexFour? rest
      if 0xDC00 ≤ low ∧ low < 0xE000 then
        return (Char.ofNat (0x10000 + (high - 0xD800) * 0x400 + (low - 0xDC00)), rest)
      else none
    | _ => none
  else if 0xDC00 ≤ high ∧ high < 0xE000 then none
  else return (Char.ofNat high, rest)

/-- The character that an escape stands for, given the text after the backslash. -/
def escaped? : List Char → Option (Char × List Char)
  | [] => none
  | c :: rest =>
    if c = '"' ∨ c = '\\' ∨ c = '/' then some (c, rest)
    else if c = 'n' then some ('\n', rest)
    else if c = 't' then some ('\t', rest)
    else if c = 'r' then some ('\r', rest)
    else if c = 'b' then some (Char.ofNat 0x08, rest)
    else if c = 'f' then some (Char.ofNat 0x0C, rest)
    else if c = 'u' then unicode? rest
    else none

/-- Reads a text up to its closing quote; `done` holds the characters so far, the last one first. -/
def quoted? : Nat → List Char → List Char → Option (String × List Char)
  | 0, _, _ => none
  | _ + 1, _, [] => none
  | fuel + 1, done, c :: rest =>
    if c = '"' then some (String.ofList done.reverse, rest)
    else if c = '\\' then
      match escaped? rest with
      | some (d, rest) => quoted? fuel (d :: done) rest
      | none => none
    else if c.toNat < 0x20 then none
    else quoted? fuel (c :: done) rest

/-! ## Numbers -/

/-- The integer, if 64 bits hold it.  Minus zero is no integer. -/
def wholeNumber? (negative : Bool) (value : Nat) : Option Number :=
  if negative then
    if value = 0 ∨ 0x8000000000000000 < value then none else some (.int (-value))
  else if value ≤ 0xFFFFFFFFFFFFFFFF then some (.int value)
  else none

/-- Takes digits into a significand as long as 64 bits hold it, and returns those that are left. -/
def takeDigits : Nat → List Char → Nat × List Char
  | significand, [] => (significand, [])
  | significand, digit :: rest =>
    let longer := 10 * significand + (digit.toNat - '0'.toNat)
    if longer ≤ 0xFFFFFFFFFFFFFFFF then takeDigits longer rest else (significand, digit :: rest)

/-- The exponent of the greatest power of ten that a number is scaled by at once. -/
def greatestScale : Nat := 308

/-- The double times `10 ^ exponent`, an exponent of at most `greatestScale` either way. -/
def scaleOnce? (d : Double) (exponent : Int) : Option Double := do
  let power ← Double.ofNat? (Nat.pow 10 exponent.natAbs)
  if 0 ≤ exponent then d.mul? power else d.div? power

/-- The value of `significand * 10 ^ exponent` in double precision.  It is rounded at each step: the
significand to a double, the power of ten to a double, and their product or quotient.  A number below
the powers of ten is divided twice; one that two divisions do not suffice for is zero. -/
def scale? (significand : Nat) (exponent : Int) : Option Double := do
  let d ← Double.ofNat? significand
  if significand = 0 ∨ exponent < -2 * greatestScale then return .zero
  else if greatestScale < exponent then none
  else if exponent < -greatestScale then
    scaleOnce? (← scaleOnce? d (-greatestScale)) (exponent + greatestScale)
  else scaleOnce? d exponent

/-- The exponent of a number, if one is written, and the text after it. -/
def exponent? : List Char → Option (Option Int × List Char)
  | c :: rest =>
    if c = 'e' ∨ c = 'E' then
      let (negative, rest) := match rest with
        | '-' :: rest => (true, rest)
        | '+' :: rest => (false, rest)
        | rest => (false, rest)
      let (digits, rest) := rest.span Char.isDigit
      (decimal? digits).map (fun value => (some (if negative then -(value : Int) else value), rest))
    else some (none, c :: rest)
  | [] => some (none, [])

/-- The fraction digits of a number, if a point is written, and the text after them. -/
def fraction? : List Char → Option (Option (List Char) × List Char)
  | '.' :: rest =>
    let (digits, rest) := rest.span Char.isDigit
    if digits.isEmpty then none else some (some digits, rest)
  | rest => some (none, rest)

/-- The value of a number with these digits, as a double.  Digits count as long as 64 bits hold them
all together.  Those before the point that do not count still make the number ten times as great. -/
def fractionValue? (whole fraction : List Char) (exponent : Int) : Option Double :=
  let (significand, wholeLeft) := takeDigits 0 whole
  let (significand, fractionLeft) := takeDigits significand fraction
  scale? significand (exponent + wholeLeft.length + fractionLeft.length - fraction.length)

/-- Reads a number. -/
def number? (text : List Char) : Option (Number × List Char) := do
  let (negative, rest) := match text with
    | '-' :: rest => (true, rest)
    | rest => (false, rest)
  let (whole, rest) := rest.span Char.isDigit
  let value ← decimal? whole
  if whole.head? = some '0' ∧ 1 < whole.length then none
  else
    let (fraction, rest) ← fraction? rest
    let (exponent, rest) ← exponent? rest
    let integer := if fraction.isNone && exponent.isNone then wholeNumber? negative value else none
    match integer with
    | some number => return (number, rest)
    | none =>
      let d ← fractionValue? whole (fraction.getD []) (exponent.getD 0)
      return (.ofDouble negative d, rest)

/-! ## Documents -/

/-- The text after `word`, if it starts with it. -/
def after? (word : List Char) (text : List Char) : Option (List Char) :=
  if word.isPrefixOf text then some (text.drop word.length) else none

mutual

/-- Reads a document; `depth` levels of nesting are left. -/
def value? : Nat → Nat → List Char → Option (Value × List Char)
  | 0, _, _ => none
  | fuel + 1, depth, text =>
    match skipSpace text with
    | [] => none
    | c :: rest =>
      if c = '"' then (quoted? (fuel + 1) [] rest).map (fun (value, rest) => (.text value, rest))
      else if c = '[' then
        if depth = 0 then none
        else match skipSpace rest with
          | ']' :: rest => some (.list [], rest)
          | rest => items? fuel (depth - 1) [] rest
      else if c = '\x7b' then
        if depth = 0 then none
        else match skipSpace rest with
          | '\x7d' :: rest => some (.record [], rest)
          | rest => members? fuel (depth - 1) [] rest
      else if c = 'n' then (after? ['u', 'l', 'l'] rest).map (fun rest => (.null, rest))
      else if c = 't' then (after? ['r', 'u', 'e'] rest).map (fun rest => (.bool true, rest))
      else if c = 'f' then (after? ['a', 'l', 's', 'e'] rest).map (fun rest => (.bool false, rest))
      else (number? (c :: rest)).map (fun (value, rest) => (.number value, rest))

/-- Reads the items of a list up to its closing bracket. -/
def items? : Nat → Nat → List Value → List Char → Option (Value × List Char)
  | 0, _, _, _ => none
  | fuel + 1, depth, done, text =>
    match value? fuel depth text with
    | none => none
    | some (item, rest) =>
      match skipSpace rest with
      | ',' :: rest => items? fuel depth (item :: done) rest
      | ']' :: rest => some (.list (item :: done).reverse, rest)
      | _ => none

/-- Reads the members of a record up to its closing brace. -/
def members? : Nat → Nat → List (String × Value) → List Char → Option (Value × List Char)
  | 0, _, _, _ => none
  | fuel + 1, depth, done, text =>
    match skipSpace text with
    | '"' :: rest =>
      match quoted? (fuel + 1) [] rest with
      | none => none
      | some (name, rest) =>
        match skipSpace rest with
        | ':' :: rest =>
          match value? fuel depth rest with
          | none => none
          | some (value, rest) =>
            match skipSpace rest with
            | ',' :: rest => members? fuel depth ((name, value) :: done) rest
            | '\x7d' :: rest => some (.record ((name, value) :: done).reverse, rest)
            | _ => none
        | _ => none
    | _ => none

end

/-- The document that a text holds, members as they are written. -/
def parse? (text : String) : Option Value :=
  let chars := text.toList
  match value? (chars.length + 1) maxDepth chars with
  | some (value, rest) => if (skipSpace rest).isEmpty then some value else none
  | none => none

end DeviceStandby.Json
