import DeviceStandby.Value

/-!
# Writing JSON

`Json.render` writes a document on one line without blanks.  Fractions are written so that they do
not read back as integers: with a point, or with an exponent when the point would lie more than
sixteen digits to the right of the first digit or five zeros to its left.
-/

namespace DeviceStandby.Json

/-- The characters that stand for `c` inside a quoted text. -/
def escape (c : Char) : List Char :=
  if c = '"' then ['\\', '"']
  else if c = '\\' then ['\\', '\\']
  else if c = '\n' then ['\\', 'n']
  else if c = '\r' then ['\\', 'r']
  else if c = '\t' then ['\\', 't']
  else if c.toNat = 0x08 then ['\\', 'b']
  else if c.toNat = 0x0C then ['\\', 'f']
  else if c.toNat < 0x20 then
    ['\\', 'u', '0', '0', Nat.digitChar (c.toNat / 16), Nat.digitChar (c.toNat % 16)]
  else [c]

/-- The text between quotes. -/
def quote (text : String) : String :=
  String.ofList ('"' :: (text.toList.flatMap escape ++ ['"']))

/-- The digits of a mantissa without its final zeros, and how many zeros were taken off. -/
def stripZeros (digits : List Char) : List Char × Nat :=
  let kept := (digits.reverse.dropWhile (· == '0')).reverse
  (kept, digits.length - kept.length)

/-- The text of the fraction `mantissa * 10 ^ exponent`. -/
def renderReal (mantissa : Nat) (exponent : Int) : List Char :=
  if mantissa = 0 then ['0', '.', '0']
  else
    let (digits, zeros) := stripZeros (Nat.toDigits 10 mantissa)
    let point : Int := digits.length + (exponent + zeros)
    if 0 < point ∧ point ≤ 16 then
      let whole := digits.take point.toNat
      let fraction := digits.drop point.toNat
      whole ++ List.replicate (point.toNat - whole.length) '0' ++ ['.']
        ++ (if fraction.isEmpty then ['0'] else fraction)
    else if -5 < point ∧ point ≤ 0 then
      ['0', '.'] ++ List.replicate (-point).toNat '0' ++ digits
    else
      let fraction := digits.drop 1
      digits.take 1 ++ (if fraction.isEmpty then [] else '.' :: fraction)
        ++ ['e'] ++ (toString (point - 1)).toList

/-- The text of a number. -/
def renderNumber : Number → String
  | .int value => toString value
  | .real negative mantissa exponent =>
    String.ofList ((if negative then ['-'] else []) ++ renderReal mantissa exponent)

mutual

/-- The text of a document. -/
def render : Value → String
  | .null => "null"
  | .bool true => "true"
  | .bool false => "false"
  | .number value => renderNumber value
  | .text value => quote value
  | .list items => "[" ++ renderItems items ++ "]"
  | .record members => "\x7b" ++ renderMembers members ++ "\x7d"

/-- The texts of the items with commas between them. -/
def renderItems : List Value → String
  | [] => ""
  | [item] => render item
  | item :: items => render item ++ "," ++ renderItems items

/-- The texts of the members with commas between them. -/
def renderMembers : List (String × Value) → String
  | [] => ""
  | [(name, value)] => quote name ++ ":" ++ render value
  | (name, value) :: members => quote name ++ ":" ++ render value ++ "," ++ renderMembers members

end

end DeviceStandby.Json
