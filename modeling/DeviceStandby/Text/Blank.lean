/-!
# Blanks

`isBlank` is the property White_Space of Unicode.  `trim` takes the blanks off both ends of a text.
-/

namespace DeviceStandby

/-- Whether a character has the property White_Space. -/
def isBlank (c : Char) : Bool :=
  let code := c.toNat
  (0x9 ≤ code && code ≤ 0xD) || code == 0x20 || code == 0x85 || code == 0xA0 || code == 0x1680
    || (0x2000 ≤ code && code ≤ 0x200A) || code == 0x2028 || code == 0x2029 || code == 0x202F
    || code == 0x205F || code == 0x3000

/-- The text without the blanks at its start. -/
def dropBlanks (text : List Char) : List Char := text.dropWhile isBlank

/-- The text without the blanks at either end. -/
def trimChars (text : List Char) : List Char := (dropBlanks (dropBlanks text).reverse).reverse

/-- The text without the blanks at either end. -/
def trim (text : String) : String := String.ofList (trimChars text.toList)

/-- Splits a text at every `separator`; a text without one is a single part. -/
def splitAt (separator : Char) : List Char → List (List Char)
  | [] => [[]]
  | c :: rest =>
    if c = separator then [] :: splitAt separator rest
    else
      match splitAt separator rest with
      | [] => [[c]]
      | part :: parts => (c :: part) :: parts

/-- The letter in lower case, if it is an ASCII capital. -/
def lowerAscii (text : String) : String := text.map Char.toLower

/-- Puts `separator` between the parts. -/
def joinWith (separator : String) (parts : List String) : String := String.intercalate separator parts

end DeviceStandby
