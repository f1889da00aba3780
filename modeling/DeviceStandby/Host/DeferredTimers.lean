import DeviceStandby.Error
import DeviceStandby.Host.Timers

/-!
# Timers that post to a queue

`DeferredTimers` are timers that post their task to a queue when they are due, so that it is handled
in turn.  They run on a clock of their own.  The time that they show to others is that of the boot
clock, which goes on while the system is suspended; where it cannot be read, it is the last known
start plus the monotonic time since then.
-/

namespace DeviceStandby

/-- The timers with their clocks, and the queue that they post to. -/
structure DeferredTimers where
  timers : TimerSource := {}
  /-- The tasks that were posted and not received yet. -/
  posted : List Task := []
  /-- Whether no task can be posted any more. -/
  closed : Bool := false
  /-- What the boot clock shows, if it can be read. -/
  boot : Option Int
  /-- What the monotonic clock shows. -/
  monotonic : Int
  /-- What the boot clock showed when the timers were made, or zero. -/
  bootStart : Int := boot.getD 0
  /-- What the monotonic clock showed when the timers were made. -/
  monotonicStart : Int := monotonic
deriving DecidableEq

namespace DeferredTimers

/-- Makes timers with the clocks as they are; this is possible only where timers can run. -/
def create? (runnable : Bool) (boot : Option Int) (monotonic : Int) :
    Except HostError DeferredTimers :=
  if runnable then .ok { boot, monotonic } else .error (.internal "no runtime for timers")

/-- The time in milliseconds that is shown to others. -/
def now (t : DeferredTimers) : Int :=
  t.boot.getD (t.bootStart + max 0 (t.monotonic - t.monotonicStart))

/-- The longest delay, thirty years of 365 days in milliseconds. -/
def longestDelay : Nat := 946080000000

/-- Arms a timer.  A delay is cut to the longest one. -/
def arm (t : DeferredTimers) (delay : Nat) (task : TimerTask) : Option TimerId × DeferredTimers :=
  let (id, timers) := t.timers.armAt (t.timers.now + (min delay longestDelay : Nat)) task
  (id, { t with timers })

/-- Takes a timer out before it fires, and says whether it was still armed. -/
def cancel (t : DeferredTimers) (id : TimerId) : Bool × DeferredTimers :=
  let (armed, timers) := t.timers.cancel id
  (armed, { t with timers })

/-- How many timers are armed. -/
def armedCount (t : DeferredTimers) : Nat := t.timers.pending.length

/-- Posts a task. -/
def post (t : DeferredTimers) (task : Task) : Except HostError DeferredTimers :=
  if t.closed then .error .queueClosed else .ok { t with posted := t.posted ++ [task] }

/-- Ends posting.  What was posted can still be received. -/
def close (t : DeferredTimers) : DeferredTimers := { t with closed := true }

/-- Lets time pass and receives everything that was posted until then.  Timers that fire when no task
can be posted are lost. -/
def run (t : DeferredTimers) (millis : Nat) : List Task × DeferredTimers :=
  let (due, timers) := t.timers.advance millis
  let fired := due.map (fun timer => Task.timer timer.id timer.task)
  (t.posted ++ (if t.closed then [] else fired), { t with timers, posted := [] })

end DeferredTimers

end DeviceStandby
