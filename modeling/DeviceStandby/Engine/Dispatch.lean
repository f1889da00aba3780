import DeviceStandby.Engine.Lifecycle
import DeviceStandby.Exemption.Revoke

/-!
# Handling tasks

While the engine is ready, a message goes to the listener, the state machine and the strategies, in
this order, and may then concern the engine itself.  While it is not ready, messages, late answers
and the timers of the state machine are dropped; only timers of the exemption table are heeded.
-/

namespace DeviceStandby.Engine

/-- What a message asks of the engine itself: to forget the exemptions of an app that was removed,
or to arm the timer for the next change between day and night anew because the clock was set. -/
def keepHouse (e : Engine) (message : Message) : Engine :=
  if message.reports Action.packageRemoved then
    match (message.int? "uid").bind Width.int32.check?, message.text? "name" with
    | some uid, some name => e.withAdmission (e.toAdmission.removeApp uid name true)
    | _, _ => e
  else if message.reports Action.timeChanged || message.reports Action.timezoneChanged then
    e.armDayNight
  else e

/-- Delivers a message. -/
def deliver (e : Engine) (message : Message) : Engine :=
  if !e.ready then e
  else
    let e := { e with listener := e.listener.hear }
    let e := (e.note (.listenerEvent e.listener.seen)).note .stateEvent
    let e := e.drive (Rig.handleEvent e.plugin.constraint e.policy message)
    let e := e.note .strategyEvent
    let e := { e with strategies := strategiesAfter e.policy e.strategies message }
    e.keepHouse message

/-- Heeds the timer for the change between day and night, unless it was replaced.  A sleeping device
is told of the new condition at once. -/
def onDayNight (e : Engine) (id : TimerId) : Engine :=
  if e.dayNightTimer ≠ some id then e
  else
    let e := { e with dayNightTimer := none }
    if !e.ready then e
    else
      let e :=
        if e.machine.current = .sleep then e.deliver (.conditionChanged e.toAdmission.condition)
        else e
      e.armDayNight

/-- Heeds a timer. -/
def onTimer (e : Engine) (id : TimerId) (task : TimerTask) : Engine :=
  match task with
  | .transitNextState _ | .transitNextPhase _ =>
    if e.ready then
      (e.note (.stateTimer id)).drive (Rig.onTimer e.plugin.constraint e.policy id task)
    else e
  | .revokeExpired uid name mask => e.withAdmission (e.toAdmission.revoke uid name mask false)
  | .dayNightSwitch => e.onDayNight id

/-- Handles a task. -/
def handle (e : Engine) (task : Task) : Engine :=
  match task with
  | .message body => e.deliver body
  | .timer id task => e.onTimer id task
  | .evaluationFinished passed =>
    if e.ready then
      (e.note (.stateEndEvaluation passed)).drive (Rig.endEvaluation e.policy passed)
    else e
  | .snapshot => e

/-! ## Working off the queue -/

/-- Takes the first task from the queue and handles it. -/
def handleNext (e : Engine) : Option (Task × Engine) :=
  match e.host.queue.tasks with
  | [] => none
  | task :: tasks =>
    let e := { e with host := { e.host with queue := { e.host.queue with tasks } } }
    some (task, e.handle task)

/-- Handles so many tasks, or all if there are fewer; answers which ones. -/
def handleSome : Nat → Engine → List Task × Engine
  | 0, e => ([], e)
  | count + 1, e =>
    match e.handleNext with
    | none => ([], e)
    | some (task, e) =>
      let (rest, e) := handleSome count e
      (task :: rest, e)

/-- How many tasks are handled at most when the task and all that comes of it are worked off.
Messages about what the service itself did have no consequences, and every other task has at most
two of them. -/
def workload : Task → Nat
  | .snapshot => 1
  | .message body =>
    match body.kind with
    | .stateTransit | .phaseTransit | .allowListChanged => 1
    | _ => 3
  | .timer _ _ | .evaluationFinished _ => 3

/-- Handles tasks until the queue is empty; answers which ones. -/
def drain (e : Engine) : List Task × Engine :=
  handleSome ((e.host.queue.tasks.map workload).foldl (· + ·) 0) e

end DeviceStandby.Engine
