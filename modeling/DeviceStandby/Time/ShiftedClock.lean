import DeviceStandby.Time.Calendar

/-!
# A clock set to a chosen time

For trying out the day and night conditions the wall clock can be set to a chosen moment, given as
text.  It then runs on at the pace of the real clock: the shift between the two is taken once, at
the first reading.
-/

namespace DeviceStandby

/-- How far the chosen moment lies ahead of the real one.  A leap second counts as a second only
from a time of day before it. -/
def shiftTo (chosen real : Moment) : Int :=
  let whole := chosen.seconds - real.seconds
  if chosen.nanos < 1000000000 ∨ chosen.secondOfDay < real.secondOfDay then whole else whole + 1

/-- The shift that a text asks for, if it can be read. -/
def shiftOf (text : String) (real : Moment) : Int :=
  match Moment.readLocal? text with
  | some chosen => shiftTo chosen real
  | none => 0

/-- The readings of the shifted clock at the given readings of the real one. -/
def shiftedReadings (text : String) (readings : List Moment) : List Moment :=
  match readings with
  | [] => []
  | first :: _ => readings.map (fun real => real.addSeconds (shiftOf text first))

end DeviceStandby
