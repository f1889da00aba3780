import DeviceStandby.Simulation.Step

/-!
# Scripts and observations

Steps of a session are read from documents, which name the step under `do`, and what can be seen of a
session afterwards is written as a document.
-/

namespace DeviceStandby

/-- The document of an armed timer. -/
def ArmedTimer.toValue (timer : ArmedTimer) : Value :=
  .record [("id", .nat timer.id), ("due", .int timer.due), ("task", timer.task.toValue)]

/-- The document of the armed timers, in the order in which they will fire. -/
def TimerSource.toValue (source : TimerSource) : Value :=
  .list (source.armed.map ArmedTimer.toValue)

/-- The document of the calls that a wake lock received. -/
def WakeLock.toValue (lock : WakeLock) : Value := .list [.nat lock.acquires, .nat lock.releases]

/-- The document of some tasks. -/
def Task.listValue (tasks : List Task) : Value := .list (tasks.map Task.toValue)

/-- Reads what a scripted constraint answers; `device` stands for no script. -/
def Probe.scriptOfValue? : Value → Option (Option Verdict)
  | .text "device" => some none
  | .text "pass" => some (some .pass)
  | .text "pending" => some (some .pending)
  | .record [("veto", .text reason)] => some (some (.veto reason))
  | _ => none

/-- Reads a running process. -/
def Processes.entryOfValue? : Value → Option (Pid × String)
  | .list [pid, name] => (pid.int? .int32).bind (fun pid => name.text?.map (fun name => (pid, name)))
  | _ => none

namespace Value

/-- Reads the member with this name. -/
def at? {α : Type} (value : Value) (name : String) (read : Value → Option α) : Option α :=
  (value.member? name).bind read

/-- Reads the member with this name, or takes `fallback` where it is missing. -/
def atOr? {α : Type} (value : Value) (name : String) (fallback : α) (read : Value → Option α) :
    Option α :=
  match value.member? name with
  | none => some fallback
  | some member => read member

end Value

namespace SessionStep

/-- The configuration that a step names, or the least one. -/
def configOf? (step : Value) : Option String :=
  step.atOr? "config" "config_version = 1" Value.text?

/-- The owner, by number and name, that a step names. -/
def ownerOf? (step : Value) : Option (Uid × String) := do
  return (← step.at? "uid" (Value.int? .int32), ← step.at? "name" Value.text?)

/-- The query that a step makes. -/
def queryOf? (step : Value) : Option (Caller × Mask × ReasonCode) := do
  return (← step.at? "caller" Caller.ofValue?, ← step.at? "mask" Mask.ofValue?,
    ← step.at? "reason_code" ReasonCode.ofValue?)

/-- Reads a step that moves the host or the engine as a whole. -/
def readMove? (step : Value) : String → Option SessionStep
  | "init" => do
    let running ← step.atOr? "processes" [] (Value.items? Processes.entryOfValue?)
    let failing ← step.atOr? "fail_lookup" false Value.bool?
    return .init (if failing then none else some running)
  | "uninit" => some .uninit
  | "restart" => do
    let registry ← step.atOr? "registry" "default" Value.text?
    let clock ← step.atOr? "start_ms" none (fun value => (value.int? .int64).map some)
    return .restart (Session.registry registry) (← configOf? step) clock
  | "reload" => (configOf? step).map .reload
  | "pump" => some .pump
  | "pop" => some .pop
  | "post" => (step.at? "task" Task.ofValue?).map .post
  | "handle" => (step.at? "task" Task.ofValue?).map .handle
  | "advance" => (step.at? "ms" (Value.nat? .word64)).map .advance
  | "set_wall" => ((step.at? "now" Value.text?).bind Moment.readWhole?).map .setWall
  | "fail" => do
    return .fail (← (step.at? "what" Value.text?).bind Failing.ofName?) (← step.at? "on" Value.bool?)
  | "verdict" => (step.at? "verdict" Probe.scriptOfValue?).map .script
  | "evaluating" => (step.at? "on" Value.bool?).map .evaluating
  | "device" => do
    return .device (← step.at? "kind" (Value.int? .int32)) (← step.at? "on" Value.bool?)
  | "document" => some .document
  | "save_document" => (step.member? "value").map .saveDocument
  | "condition" => some .condition
  | "dump" => some .dump
  | _ => none

/-- Reads a step that concerns the exemption table directly. -/
def readTable? (step : Value) : String → Option SessionStep
  | "grant" => do
    return .grant (← step.at? "request" Request.ofValue?) (← step.at? "pid" (Value.int? .int32))
  | "admission_unapply" => (step.at? "request" Request.ofValue?).map .takeBack
  | "revoke" => do
    let (uid, name) ← ownerOf? step
    return .revoke uid name (← step.at? "mask" Mask.ofValue?) (← step.at? "force" Value.bool?)
  | "remove_app" => do
    let (uid, name) ← ownerOf? step
    return .removeApp uid name (← step.at? "reset_all" Value.bool?)
  | "record" => (ownerOf? step).map (fun (uid, name) => .record uid name)
  | _ => none

/-- Reads a step that calls the facade. -/
def readCall? (step : Value) : String → Option SessionStep
  | "event" => (step.at? "event" SystemEvent.ofValue?).map .receive
  | "dispatch" => (step.at? "message" Message.ofValue?).map .dispatch
  | "apply" => do
    return .apply (← step.at? "caller" Caller.ofValue?) (← step.at? "request" Request.ofValue?)
  | "unapply" => do
    return .unapply (← step.at? "caller" Caller.ofValue?) (← step.at? "request" Request.ofValue?)
  | "allow_list" => (queryOf? step).map (fun (caller, mask, code) => .allowList caller mask code)
  | "restrict_list" =>
    (queryOf? step).map (fun (caller, mask, code) => .restrictList caller mask code)
  | "restrict_set" => do
    return .restrictSet (← step.at? "mask" Mask.ofValue?) (← step.at? "strategy" Value.text?)
      (← step.at? "reason_code" ReasonCode.ofValue?)
  | "strategy_enabled" => do
    return .strategyEnabled (← step.at? "caller" Caller.ofValue?)
      (← step.at? "strategy" Value.text?)
  | "report_work" => do
    let (uid, name) ← ownerOf? step
    return .reportWork (← step.at? "caller" Caller.ofValue?) (← step.at? "started" Value.bool?) uid
      name
  | "report_device" => do
    return .reportDevice (← step.at? "caller" Caller.ofValue?)
      (← step.at? "kind" (Value.int? .int32)) (← step.at? "on" Value.bool?)
  | "process_status" => do
    let (uid, name) ← ownerOf? step
    return .reportProcess (← step.at? "caller" Caller.ofValue?) uid
      (← step.at? "pid" (Value.int? .int32)) name (← step.at? "created" Value.bool?)
  | "in_standby" => (step.at? "caller" Caller.ofValue?).map .inStandby
  | "snapshot" => some .snapshot
  | "dump_state" => some .dumpState
  | "snapshot_timeout" => some .snapshotUnanswered
  | _ => none

/-- Reads a step. -/
def ofValue? (step : Value) : Option SessionStep := do
  let name ← step.at? "do" Value.text?
  ((readMove? step name).or (readTable? step name)).or (readCall? step name)

end SessionStep

namespace Session

/-- What can be seen of a session after a step, with the answer that the step gave. -/
def observe (s : Session) (result : Value) : Value :=
  let e := s.engine
  .record [("result", result), ("ready", .bool e.ready), ("snapshot", e.snapshot.toValue),
    ("next", Value.ofOption (fun state => .text (State.name state)) e.machine.nextState),
    ("active", textList e.strategies), ("now_ms", .int e.host.now),
    ("timers", e.host.timers.toValue), ("handled", Task.listValue s.handled),
    ("queue", Task.listValue e.host.queue.tasks),
    ("records", .list (e.table.values.map Record.toValue)), ("saves", .nat s.saves),
    ("audits", .list (s.audits.map AuditEvent.toValue)), ("wake", e.host.wakeLock.toValue),
    ("trace", textList s.trace)]

end Session

end DeviceStandby
