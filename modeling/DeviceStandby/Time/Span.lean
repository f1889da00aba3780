import DeviceStandby.Number.Width

/-!
# Spans of time

Delays are counted in milliseconds and shown in hours, minutes and seconds.
-/

namespace DeviceStandby

/-- The milliseconds of a number of seconds. -/
def millisOfSeconds (seconds : Nat) : Nat := seconds * 1000

/-- The span in hours, minutes and seconds; the larger units are left out while they are zero. -/
def spanText (seconds : Nat) : String :=
  let hours := seconds / 3600
  let minutes := seconds % 3600 / 60
  let rest := seconds % 60
  if 0 < hours then s!"{hours}h {minutes}m {rest}s"
  else if 0 < minutes then s!"{minutes}m {rest}s"
  else s!"{rest}s"

/-- The milliseconds left until `stop`, none if it has passed; 64 bits bound the difference. -/
def remainingMillis (stop now : Int) : Int := max 0 (Width.int64.clamp (stop - now))

/-- The delay of a number of milliseconds; a negative number is no delay. -/
def delayOfMillis (millis : Int) : Nat := millis.toNat

/-- The milliseconds from `origin` to `later` on a clock that never goes back. -/
def millisSince (later origin : Nat) : Nat := later - origin

end DeviceStandby
