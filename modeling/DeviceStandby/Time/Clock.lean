import DeviceStandby.Time.Calendar

/-!
# Times of day and daily windows

A `DailyWindow` is a part of the day between two times of day that comes back every day and may go
over midnight.  `DailyWindow.contains` says whether a second of the day lies in it, and
`DailyWindow.untilNextEdge` how many seconds are left until it begins or ends.
-/

namespace DeviceStandby

/-- A time of day, to the minute. -/
structure ClockTime where
  hour : Nat
  minute : Nat
deriving DecidableEq, Repr, Inhabited

namespace ClockTime

/-- The time of day, if there is one with this hour and minute. -/
def new? (hour minute : Nat) : Option ClockTime :=
  if hour < 24 ∧ minute < 60 then some ⟨hour, minute⟩ else none

/-- Reads `HH:MM`.  Blanks may stand before either number, and one digit is enough. -/
def read? (text : String) : Option ClockTime := do
  let (hour, rest) ← shortField? 0 23 text.toList
  let rest ← afterChar? ':' rest
  let (minute, rest) ← shortField? 0 59 rest
  if rest.isEmpty then return ⟨hour, minute⟩ else none

/-- The seconds from midnight. -/
def seconds (time : ClockTime) : Nat := time.hour * 3600 + time.minute * 60

/-- Times of day are ordered by their seconds from midnight. -/
def order (a b : ClockTime) : Ordering := compare a.seconds b.seconds

/-- The time of day in two and two digits. -/
def text (time : ClockTime) : String := padded 2 time.hour ++ ":" ++ padded 2 time.minute

end ClockTime

/-- A part of the day that comes back every day. -/
structure DailyWindow where
  start : ClockTime
  stop : ClockTime
deriving DecidableEq, Repr, Inhabited

namespace DailyWindow

/-- Whether a second of the day lies in the window.  A window that begins after it ends goes over
midnight; one that begins as it ends is empty. -/
def contains (window : DailyWindow) (second : Nat) : Bool :=
  if window.start.seconds ≤ window.stop.seconds then
    window.start.seconds ≤ second && second < window.stop.seconds
  else
    window.start.seconds ≤ second || second < window.stop.seconds

/-- The seconds from `second` to the next time that the clock shows `edge`, a whole day if it shows
it now. -/
def secondsUntil (second edge : Nat) : Nat :=
  if second < edge then edge - second else secondsPerDay - second + edge

/-- The seconds until the window next begins or ends. -/
def untilNextEdge (window : DailyWindow) (second : Nat) : Nat :=
  min (secondsUntil second window.start.seconds) (secondsUntil second window.stop.seconds)

end DailyWindow

end DeviceStandby
