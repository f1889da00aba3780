/-!
# Integer widths

The numbers of messages, records and configuration files are integers of a given width.  They are
plain integers here; `Width.holds` says which of them a width admits, and `Width.read?` reads one
from text.
-/

namespace DeviceStandby

/-- The number that a non-empty run of ASCII digits denotes; `none` for any other text. -/
def decimal? (digits : List Char) : Option Nat :=
  if digits.isEmpty || !digits.all Char.isDigit then none
  else some (digits.foldl (fun number digit => 10 * number + (digit.toNat - '0'.toNat)) 0)

/-- The widths of the integers in messages, records and configuration files. -/
inductive Width where
  | byte
  | word32
  | word64
  | int32
  | int64
deriving DecidableEq, Repr

namespace Width

/-- The least number of a width. -/
def least : Width → Int
  | byte | word32 | word64 => 0
  | int32 => -0x80000000
  | int64 => -0x8000000000000000

/-- The greatest number of a width. -/
def greatest : Width → Int
  | byte => 0xFF
  | word32 => 0xFFFFFFFF
  | word64 => 0xFFFFFFFFFFFFFFFF
  | int32 => 0x7FFFFFFF
  | int64 => 0x7FFFFFFFFFFFFFFF

/-- Whether the width admits `number`. -/
def holds (width : Width) (number : Int) : Bool :=
  decide (width.least ≤ number) && decide (number ≤ width.greatest)

/-- The number itself, if the width admits it. -/
def check? (width : Width) (number : Int) : Option Int :=
  if width.holds number then some number else none

/-- The nearest number that the width admits. -/
def clamp (width : Width) (number : Int) : Int :=
  max width.least (min width.greatest number)

/-- Reads an optional sign and digits.  A minus sign is refused, even before zero, where the width
has no negative numbers. -/
def read? (width : Width) : List Char → Option Int
  | '+' :: digits => (decimal? digits).bind (fun number => width.check? number)
  | '-' :: digits =>
    if width.least < 0 then (decimal? digits).bind (fun number => width.check? (-number)) else none
  | digits => (decimal? digits).bind (fun number => width.check? number)

end Width

/-- The 64-bit signed number that agrees with `number` in the lowest 64 bits. -/
def wrap64 (number : Int) : Int := number.bmod 0x10000000000000000

end DeviceStandby
