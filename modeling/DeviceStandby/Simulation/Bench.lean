import DeviceStandby.Machine.Step
import DeviceStandby.Plugin.Listener
import DeviceStandby.Plugin.Probe
import DeviceStandby.Plugin.Strategies

/-!
# Single roles on a bench

`MachineBench` is the state machine alone, with the scripted constraint of a `Probe`, on a host whose
queue nobody works off.  `RoleBench` is a listener and the strategies alone.
-/

namespace DeviceStandby

/-- The state machine alone. -/
structure MachineBench where
  policy : Policy
  rig : Rig Probe

namespace MachineBench

/-- Forgets what has been posted and logged so far. -/
def beginStep (bench : MachineBench) : MachineBench :=
  let host := bench.rig.host
  { bench with
    rig := { bench.rig with
      host := { host with queue := { host.queue with tasks := [] } }
      constraint := { bench.rig.constraint with calls := [] } } }

/-- Lets the machine take a step. -/
def drive (bench : MachineBench) (step : Rig Probe → Rig Probe) : MachineBench :=
  { bench with rig := step bench.rig }

/-- Changes the scripted constraint. -/
def script (bench : MachineBench) (change : Probe → Probe) : MachineBench :=
  bench.drive (fun rig => { rig with constraint := change rig.constraint })

/-- Hands a message to the machine. -/
def tell (bench : MachineBench) (message : Message) : MachineBench :=
  bench.drive (Rig.handleEvent Probe.constraint bench.policy message)

/-- Hands a timer to the machine. -/
def fire (bench : MachineBench) (id : TimerId) (task : TimerTask) : MachineBench :=
  bench.drive (Rig.onTimer Probe.constraint bench.policy id task)

/-- Hands the answer of the constraint to the machine. -/
def decide (bench : MachineBench) (passed : Bool) : MachineBench :=
  bench.drive (Rig.endEvaluation bench.policy passed)

/-- Moves the clock; the timers that are due then are taken out and, if `delivering` is set, handed to
the machine. -/
def advance (bench : MachineBench) (millis : Nat) (delivering : Bool) : MachineBench :=
  let (due, timers) := bench.rig.host.timers.advance millis
  let bench := bench.drive (fun rig => { rig with host := { rig.host with timers } })
  if delivering then due.foldl (fun bench timer => bench.fire timer.id timer.task) bench else bench

/-- Makes arming fail, or work again. -/
def setArmFailing (bench : MachineBench) (on : Bool) : MachineBench :=
  bench.drive (fun rig =>
    { rig with host := { rig.host with timers := { rig.host.timers with failing := on } } })

end MachineBench

/-- A listener and the strategies alone. -/
structure RoleBench where
  policy : Policy
  listener : Listener := {}
  /-- The active strategies. -/
  strategies : List String := []

namespace RoleBench

/-- Hands a message to both. -/
def tell (bench : RoleBench) (message : Message) : RoleBench :=
  { bench with
    listener := bench.listener.hear
    strategies := strategiesAfter bench.policy bench.strategies message }

end RoleBench

end DeviceStandby
