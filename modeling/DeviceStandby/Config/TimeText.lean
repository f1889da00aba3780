import DeviceStandby.Number.Width
import DeviceStandby.Text.Blank
import DeviceStandby.Time.Clock

/-!
# Times of day in a configuration

A configuration writes times of day as `HH:MM`.  `TimeText.parse` reads one, or says what is wrong
with it: the form first, then the hour and the minute as numbers, then their ranges.
-/

namespace DeviceStandby

/-- What is wrong with a time of day. -/
inductive TimeFault where
  | form
  | hour
  | minute
  | hourRange
  | minuteRange
deriving DecidableEq, Repr

namespace TimeFault

/-- The wording of a fault. -/
def message : TimeFault → String
  | form => "Expected HH:MM format"
  | hour => "Invalid hour"
  | minute => "Invalid minute"
  | hourRange => "Hour must be 0-23"
  | minuteRange => "Minute must be 0-59"

end TimeFault

namespace TimeText

/-- Reads a time of day. -/
def parse (text : String) : Except TimeFault ClockTime :=
  match splitAt ':' text.toList with
  | [hour, minute] =>
    match Width.byte.read? hour with
    | none => .error .hour
    | some hour =>
      match Width.byte.read? minute with
      | none => .error .minute
      | some minute =>
        if 24 ≤ hour then .error .hourRange
        else if 60 ≤ minute then .error .minuteRange
        else .ok ⟨hour.toNat, minute.toNat⟩
  | _ => .error .form

/-- The time of day, if the text is one. -/
def parse? (text : String) : Option ClockTime :=
  match parse text with
  | .ok time => some time
  | .error _ => none

end TimeText

end DeviceStandby
