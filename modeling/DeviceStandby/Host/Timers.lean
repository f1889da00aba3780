import DeviceStandby.Task

/-!
# Timers on a clock that is moved by hand

A `TimerSource` keeps the armed timers and a clock in milliseconds.  Timers fire only when the clock
is moved: `TimerSource.advance` takes out every timer that is due by then, the earlier due first and
of those due together the one armed first.  A fired timer is forgotten.  While the source is
`failing` no timer can be armed.
-/

namespace DeviceStandby

/-- A timer that has not fired yet. -/
structure ArmedTimer where
  id : TimerId
  due : Int
  task : TimerTask
deriving DecidableEq, Repr

/-- The armed timers and their clock. -/
structure TimerSource where
  now : Int := 0
  nextId : TimerId := 1
  /-- The armed timers, in the order in which they were armed. -/
  pending : List ArmedTimer := []
  failing : Bool := false
deriving DecidableEq, Repr

namespace TimerSource

/-- Arms a timer that is due at a given time. -/
def armAt (source : TimerSource) (due : Int) (task : TimerTask) : Option TimerId × TimerSource :=
  if source.failing then (none, source)
  else
    (some source.nextId,
      { source with
        nextId := source.nextId + 1
        pending := source.pending ++ [⟨source.nextId, due, task⟩] })

/-- Arms a timer that is due after `delay` milliseconds.  The delay is cut to 64 bits. -/
def arm (source : TimerSource) (delay : Nat) (task : TimerTask) : Option TimerId × TimerSource :=
  source.armAt (source.now + wrap64 delay) task

/-- Takes a timer out before it fires, and says whether it was still armed. -/
def cancel (source : TimerSource) (id : TimerId) : Bool × TimerSource :=
  (source.pending.any (fun timer => timer.id = id),
    { source with pending := source.pending.filter (fun timer => timer.id ≠ id) })

/-- Puts a timer in front of those that are not due before it. -/
def insertByDue (timer : ArmedTimer) : List ArmedTimer → List ArmedTimer
  | [] => [timer]
  | other :: rest =>
    if timer.due ≤ other.due then timer :: other :: rest else other :: insertByDue timer rest

/-- The timers with the earlier due first; those due together keep their order. -/
def byDue (timers : List ArmedTimer) : List ArmedTimer := timers.foldr insertByDue []

/-- Moves the clock, and takes out the timers that are due then, in the order in which they fire. -/
def advance (source : TimerSource) (millis : Nat) : List ArmedTimer × TimerSource :=
  let now := source.now + wrap64 millis
  (byDue (source.pending.filter (fun timer => timer.due ≤ now)),
    { source with now, pending := source.pending.filter (fun timer => ¬ timer.due ≤ now) })

/-- The armed timers in the order in which they will fire. -/
def armed (source : TimerSource) : List ArmedTimer := byDue source.pending

end TimerSource

end DeviceStandby
