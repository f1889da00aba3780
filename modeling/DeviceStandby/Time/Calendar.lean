import DeviceStandby.Number.Width
import DeviceStandby.Text.Blank

/-!
# Calendar time

A `Moment` is a point of universal time in the Gregorian calendar, counted in seconds and
nanoseconds from the start of 1970.  A leap second is the second before it with a thousand million
nanoseconds or more.

`Moment.readLocal?` reads the plain form `2025-12-25 23:30:00` and `Moment.readStamped?` the form
with an offset, `2025-12-25T23:30:00+00:00`; `Moment.plain` and `Moment.stamped` write them.
-/

namespace DeviceStandby

/-! ## Days -/

/-- Whether a year has a 29th of February. -/
def isLeapYear (year : Int) : Bool := year % 4 = 0 && (year % 100 ≠ 0 || year % 400 = 0)

/-- The number of days of a month. -/
def daysInMonth (year : Int) (month : Nat) : Nat :=
  if month = 2 then (if isLeapYear year then 29 else 28)
  else if month = 4 ∨ month = 6 ∨ month = 9 ∨ month = 11 then 30
  else 31

/-- The days from the start of 1970 to a date.  Years are counted from March, so that the leap day
ends a year. -/
def daysFromDate (year : Int) (month day : Nat) : Int :=
  let year := if month ≤ 2 then year - 1 else year
  let era := year / 400
  let yearOfEra := year % 400
  let shifted : Int := (month + 9) % 12
  let dayOfYear := (153 * shifted + 2) / 5 + day - 1
  let dayOfEra := yearOfEra * 365 + yearOfEra / 4 - yearOfEra / 100 + dayOfYear
  era * 146097 + dayOfEra - 719468

/-- The date that lies so many days after the start of 1970. -/
def dateFromDays (days : Int) : Int × Nat × Nat :=
  let shifted := days + 719468
  let era := shifted / 146097
  let dayOfEra := shifted % 146097
  let yearOfEra := (dayOfEra - dayOfEra / 1460 + dayOfEra / 36524 - dayOfEra / 146096) / 365
  let dayOfYear := dayOfEra - (365 * yearOfEra + yearOfEra / 4 - yearOfEra / 100)
  let monthIndex := (5 * dayOfYear + 2) / 153
  let day := dayOfYear - (153 * monthIndex + 2) / 5 + 1
  let month := if monthIndex < 10 then monthIndex + 3 else monthIndex - 9
  (yearOfEra + era * 400 + (if month ≤ 2 then 1 else 0), month.toNat, day.toNat)

/-- The number of seconds of a day. -/
def secondsPerDay : Nat := 86400

/-! ## Moments -/

/-- A point of universal time. -/
structure Moment where
  /-- Whole seconds from the start of 1970. -/
  seconds : Int
  nanos : Nat := 0
deriving DecidableEq, Repr, Inhabited

namespace Moment

/-- The moment at a date and a time of day; second 60 is a leap second. -/
def of (year : Int) (month day hour minute second : Nat) (nanos : Nat := 0) : Moment :=
  let leap := second = 60
  let second := if leap then 59 else second
  { seconds := daysFromDate year month day * secondsPerDay + hour * 3600 + minute * 60 + second
    nanos := if leap then nanos + 1000000000 else nanos }

/-- The seconds that have gone by since midnight. -/
def secondOfDay (moment : Moment) : Nat := (moment.seconds % secondsPerDay).toNat

/-- The date of the moment. -/
def date (moment : Moment) : Int × Nat × Nat := dateFromDays (moment.seconds / secondsPerDay)

/-- The moment so many seconds later. -/
def addSeconds (moment : Moment) (seconds : Int) : Moment :=
  { moment with seconds := moment.seconds + seconds }

end Moment

/-! ## Writing -/

/-- The number in decimal, with zeros in front up to `width` digits. -/
def padded (width number : Nat) : String :=
  let digits := Nat.toDigits 10 number
  String.ofList (List.replicate (width - digits.length) '0' ++ digits)

/-- The year in four digits, with a sign if four digits do not hold it. -/
def yearText (year : Int) : String :=
  if 0 ≤ year ∧ year ≤ 9999 then padded 4 year.toNat
  else (if year < 0 then "-" else "+") ++ padded 4 year.natAbs

namespace Moment

/-- The date, a separator and the time of day. -/
def render (moment : Moment) (separator : String) : String :=
  let (year, month, day) := moment.date
  let second := moment.secondOfDay
  s!"{yearText year}-{padded 2 month}-{padded 2 day}" ++ separator
    ++ s!"{padded 2 (second / 3600)}:{padded 2 (second % 3600 / 60)}:"
    ++ padded 2 (second % 60 + moment.nanos / 1000000000)

/-- The plain form of a moment. -/
def plain (moment : Moment) : String := moment.render " "

/-- The form of a moment with an offset.  A fraction of a second has three, six or nine digits. -/
def stamped (moment : Moment) : String :=
  let nanos := moment.nanos % 1000000000
  let fraction :=
    if nanos = 0 then ""
    else if nanos % 1000000 = 0 then "." ++ padded 3 (nanos / 1000000)
    else if nanos % 1000 = 0 then "." ++ padded 6 (nanos / 1000)
    else "." ++ padded 9 nanos
  moment.render "T" ++ fraction ++ "+00:00"

end Moment

/-! ## Reading -/

/-- Reads a number of at least `least` and at most `most` digits. -/
def digitField? (least most : Nat) (text : List Char) : Option (Nat × List Char) :=
  let digits := (text.take most).takeWhile Char.isDigit
  if digits.length < least then none
  else (decimal? digits).map (fun value => (value, text.drop digits.length))

/-- Reads a number of one or two digits between two bounds, after blanks. -/
def shortField? (low high : Nat) (text : List Char) : Option (Nat × List Char) :=
  match digitField? 1 2 (dropBlanks text) with
  | some (value, rest) => if low ≤ value ∧ value ≤ high then some (value, rest) else none
  | none => none

/-- Reads a number of exactly two digits between two bounds. -/
def pairField? (low high : Nat) (text : List Char) : Option (Nat × List Char) :=
  match digitField? 2 2 text with
  | some (value, rest) => if low ≤ value ∧ value ≤ high then some (value, rest) else none
  | none => none

/-- The text after the character `c`. -/
def afterChar? (c : Char) : List Char → Option (List Char)
  | d :: rest => if d = c then some rest else none
  | [] => none

/-- Reads a year, after blanks: up to four digits, or a sign and any number of them. -/
def yearField? (text : List Char) : Option (Int × List Char) :=
  let text := dropBlanks text
  match text with
  | '-' :: rest => (digitField? 1 rest.length rest).map (fun (value, rest) => (-(value : Int), rest))
  | '+' :: rest => (digitField? 1 rest.length rest).map (fun (value, rest) => ((value : Int), rest))
  | _ => (digitField? 1 4 text).map (fun (value, rest) => ((value : Int), rest))

namespace Moment

/-- Reads the plain form.  Blanks may stand before every number. -/
def readLocal? (text : String) : Option Moment := do
  let (year, rest) ← yearField? text.toList
  let rest ← afterChar? '-' rest
  let (month, rest) ← shortField? 1 12 rest
  let rest ← afterChar? '-' rest
  let (day, rest) ← shortField? 1 31 rest
  let (hour, rest) ← shortField? 0 23 rest
  let rest ← afterChar? ':' rest
  let (minute, rest) ← shortField? 0 59 rest
  let rest ← afterChar? ':' rest
  let (second, rest) ← shortField? 0 60 rest
  if rest.isEmpty ∧ day ≤ daysInMonth year month ∧ -262143 ≤ year ∧ year ≤ 262142 then
    return Moment.of year month day hour minute second
  else none

/-- Reads the plain form on a clock that counts whole seconds, where a leap second is the second
before it. -/
def readWhole? (text : String) : Option Moment :=
  (readLocal? text).map (fun moment => { moment with nanos := 0 })

/-- Reads an offset in seconds: a letter Z, or a sign, hours and minutes. -/
def offset? : List Char → Option (Int × List Char)
  | [] => none
  | c :: rest =>
    if c = 'Z' ∨ c = 'z' then some (0, rest)
    else if c = '+' ∨ c = '-' ∨ c.toNat = 0x2212 then do
      let (hours, rest) ← pairField? 0 23 rest
      let rest ← afterChar? ':' rest
      let (minutes, rest) ← pairField? 0 59 rest
      let seconds : Int := hours * 3600 + minutes * 60
      return (if c = '+' then seconds else -seconds, rest)
    else none

/-- Reads the fraction of a second in nanoseconds; digits after the ninth do not count. -/
def fraction? : List Char → Option (Nat × List Char)
  | '.' :: rest =>
    let digits := rest.takeWhile Char.isDigit
    let kept := digits.take 9
    (decimal? kept).map
      (fun value => (value * Nat.pow 10 (9 - kept.length), rest.drop digits.length))
  | rest => some (0, rest)

/-- Reads the form with an offset. -/
def readStamped? (text : String) : Option Moment := do
  let (year, rest) ← digitField? 4 4 text.toList
  let rest ← afterChar? '-' rest
  let (month, rest) ← pairField? 1 12 rest
  let rest ← afterChar? '-' rest
  let (day, rest) ← pairField? 1 31 rest
  let rest ← match rest with
    | c :: rest => if c = 'T' ∨ c = 't' ∨ c = ' ' then some rest else none
    | [] => none
  let (hour, rest) ← pairField? 0 23 rest
  let rest ← afterChar? ':' rest
  let (minute, rest) ← pairField? 0 59 rest
  let rest ← afterChar? ':' rest
  let (second, rest) ← pairField? 0 60 rest
  let (nanos, rest) ← fraction? rest
  let (offset, rest) ← offset? rest
  if rest.isEmpty ∧ day ≤ daysInMonth year month then
    return (Moment.of year month day hour minute second nanos).addSeconds (-offset)
  else none

end Moment

end DeviceStandby
