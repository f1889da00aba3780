import DeviceStandby.DeviceState
import DeviceStandby.Error
import DeviceStandby.Host.Store
import DeviceStandby.Host.Timers

/-!
# The host

The `Host` is everything that the service acts on: timers and their clock, the task queue, the
store, the wake lock, what is known of the device, and the wall clock.  Each of its operations can
fail where the real one can; what a failure means is up to the service.
-/

namespace DeviceStandby

/-- The tasks that wait to be handled, the first one first. -/
structure TaskQueue where
  tasks : List Task := []
  /-- Whether nothing can be posted. -/
  failing : Bool := false
deriving DecidableEq

/-- A call that the wake lock receives. -/
inductive LockCall where
  | acquire
  | release
deriving DecidableEq, Repr

/-- The lock that keeps the system awake. -/
structure WakeLock where
  /-- The calls it received, the first one first. -/
  calls : List LockCall := []
  failAcquire : Bool := false
  failRelease : Bool := false
deriving DecidableEq, Repr

namespace WakeLock

/-- How often the lock was to be taken. -/
def acquires (lock : WakeLock) : Nat := lock.calls.count .acquire

/-- How often the lock was to be let go. -/
def releases (lock : WakeLock) : Nat := lock.calls.count .release

/-- The lock after one more call. -/
def receive (lock : WakeLock) (call : LockCall) : WakeLock :=
  { lock with calls := lock.calls ++ [call] }

end WakeLock

/-- The names of the running processes. -/
abbrev Processes := List (Pid × String)

/-- The name of a process; of several names for one number the last counts. -/
def Processes.name? (processes : Processes) (pid : Pid) : Option String :=
  (processes.reverse.find? (fun entry => entry.1 = pid)).map (·.2)

/-- What the service acts on. -/
structure Host where
  timers : TimerSource := {}
  queue : TaskQueue := {}
  store : Store := {}
  wakeLock : WakeLock := {}
  devices : DeviceStates := {}
  /-- What the wall clock shows. -/
  wall : Moment := { seconds := 0 }
deriving DecidableEq

namespace Host

/-- The clock of the timers. -/
def now (host : Host) : Int := host.timers.now

/-- Arms a timer, if that is possible. -/
def arm (host : Host) (delay : Nat) (task : TimerTask) : Option TimerId × Host :=
  let (id, timers) := host.timers.arm delay task
  (id, { host with timers })

/-- Cancels a timer; one that is gone already is no matter. -/
def cancel (host : Host) (id : TimerId) : Host :=
  { host with timers := (host.timers.cancel id).2 }

/-- Cancels a timer if there is one. -/
def cancel? (host : Host) : Option TimerId → Host
  | some id => host.cancel id
  | none => host

/-- Posts a task, and says whether the queue took it. -/
def post (host : Host) (task : Task) : Bool × Host :=
  if host.queue.failing then (false, host)
  else (true, { host with queue := { host.queue with tasks := host.queue.tasks ++ [task] } })

/-- Posts a message and carries on if the queue does not take it. -/
def announce (host : Host) (message : Message) : Host := (host.post (.message message)).2

/-- Puts an event on record and carries on if that is not possible. -/
def audit (host : Host) (event : AuditEvent) : Host :=
  { host with store := (host.store.append host.wall event).2 }

/-- Saves a document and carries on if that is not possible. -/
def save (host : Host) (name : String) (value : Value) : Host :=
  { host with store := (host.store.save name value).2 }

/-- Takes the wake lock, and says whether that was possible. -/
def acquire (host : Host) : Bool × Host :=
  (!host.wakeLock.failAcquire, { host with wakeLock := host.wakeLock.receive .acquire })

/-- Lets the wake lock go. -/
def release (host : Host) : Host :=
  { host with wakeLock := host.wakeLock.receive .release }

end Host

end DeviceStandby
