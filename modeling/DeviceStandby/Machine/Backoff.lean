/-!
# Back-off over a list of intervals

A `Backoff` hands out the intervals of a list one after the other and stays at the last one.  The
list is given anew with each call, because it may have been replaced in between; if it has become
shorter than the place that was reached, its last interval is handed out, and an empty list gives
zero.
-/

namespace DeviceStandby

/-- How far a list of intervals has been handed out. -/
structure Backoff where
  /-- The place of the interval that was handed out last. -/
  index : Nat := 0
  /-- Whether an interval has been handed out. -/
  started : Bool := false
deriving DecidableEq, Repr, Inhabited

namespace Backoff

/-- The next interval: the first one at first, then one place further each time. -/
def next (backoff : Backoff) (intervals : List Nat) : Nat × Backoff :=
  if intervals.isEmpty then (0, backoff)
  else
    let last := intervals.length - 1
    let index := if backoff.started then min (backoff.index + 1) last else min backoff.index last
    (intervals.getD index 0, ⟨index, true⟩)

/-- The interval that was handed out last, or the first one if there was none. -/
def again (backoff : Backoff) (intervals : List Nat) : Nat × Backoff :=
  if backoff.started then ((intervals[backoff.index]?).getD (intervals.getLastD 0), backoff)
  else backoff.next intervals

end Backoff

end DeviceStandby
