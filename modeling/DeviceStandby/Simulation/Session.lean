import DeviceStandby.Config.Load
import DeviceStandby.Engine.Facade

/-!
# Sessions

A `Session` is an engine on a host that is moved by hand: the clock stands still unless it is
advanced, tasks wait in the queue until they are handled, and collaborators can be made to fail.
What has happened since a step began can be looked up: the tasks that were handled, the calls that
the plug-in logged, the documents that were to be saved and the events that were put on record.
-/

namespace DeviceStandby

/-- An engine that is moved by hand. -/
structure Session where
  engine : Engine
  /-- The tasks that were handled since the step began. -/
  handled : List Task := []
  /-- How many documents had been saved when the step began. -/
  savedBefore : Nat := 0
  /-- How long the audit trail was when the step began. -/
  auditedBefore : Nat := 0

/-- Why a session cannot be started. -/
inductive StartError where
  | config (error : ConfigError)
  | service (error : ServiceError)
deriving DecidableEq, Repr

/-- The collaborators that can be made to fail. -/
inductive Failing where
  | arm
  | post
  | acquire
  | release
  | load
  | save
  | audit
deriving DecidableEq, Repr

namespace Failing

/-- The name of a failure. -/
def name : Failing → String
  | arm => "arm"
  | post => "post"
  | acquire => "acquire"
  | release => "release"
  | load => "load"
  | save => "save"
  | audit => "audit"

/-- The failure with a name. -/
def ofName? (name : String) : Option Failing :=
  [arm, post, acquire, release, load, save, audit].find? (fun failing => failing.name = name)

end Failing

/-- The host while one of its collaborators fails, or works again. -/
def Host.setFailing (host : Host) (failing : Failing) (on : Bool) : Host :=
  match failing with
  | .arm => { host with timers := { host.timers with failing := on } }
  | .post => { host with queue := { host.queue with failing := on } }
  | .acquire => { host with wakeLock := { host.wakeLock with failAcquire := on } }
  | .release => { host with wakeLock := { host.wakeLock with failRelease := on } }
  | .load => { host with store := { host.store with failLoad := on } }
  | .save => { host with store := { host.store with failSave := on } }
  | .audit => { host with store := { host.store with failAudit := on } }

namespace Session

/-! ## Beginning -/

/-- The registries to choose from: one with the default plug-in, an instrumented one and one that
cannot be made; one without any plug-in; and one whose default plug-in cannot be made. -/
def registry : String → Registry
  | "empty" => Table.empty
  | "broken_default" =>
    Table.empty.insert defaultPluginName (.error (.pluginLoad "no symbols"))
  | _ =>
    (Registry.standard.insert "broken" (.error (.pluginLoad "broken factory"))).insert "traced"
      (.ok .traced)

/-- Makes an engine for a configuration text on a host. -/
def engine? (env : Environment) (registry : Registry) (config : String) (host : Host)
    (probe : Probe) : Except StartError Engine :=
  match Policy.parse env config with
  | .error error => .error (.config error)
  | .ok policy =>
    match Engine.create? registry policy host probe with
    | .error error => .error (.service error)
    | .ok engine => .ok engine

/-- A session with a new engine. -/
def start (env : Environment) (registry : Registry) (config : String) (host : Host)
    (probe : Probe) : Except StartError Session :=
  (engine? env registry config host probe).map (fun engine => { engine })

/-- Forgets what has happened so far. -/
def beginStep (s : Session) : Session where
  engine := { s.engine with probe := { s.engine.probe with calls := [] } }
  handled := []
  savedBefore := s.engine.host.store.saves
  auditedBefore := s.engine.host.store.trail.length

/-! ## Moving -/

/-- Gives a task to the engine. -/
def handle (s : Session) (task : Task) : Session :=
  { s with engine := s.engine.handle task, handled := s.handled ++ [task] }

/-- Handles the first task of the queue, if there is one. -/
def pop (s : Session) : Session :=
  match s.engine.handleNext with
  | some (task, engine) => { s with engine, handled := s.handled ++ [task] }
  | none => s

/-- Handles tasks until the queue is empty. -/
def pump (s : Session) : Session :=
  let (handled, engine) := s.engine.drain
  { s with engine, handled := s.handled ++ handled }

/-- Changes what the engine acts on. -/
def onHost (s : Session) (act : Host → Host) : Session :=
  { s with engine := { s.engine with host := act s.engine.host } }

/-- Moves the clock and handles the timers that are due then, in order.  They are all taken out
before the first one is handled.  If `pumping` is set, the queue is emptied after each of them. -/
def advance (s : Session) (millis : Nat) (pumping : Bool) : Session :=
  let (due, timers) := s.engine.host.timers.advance millis
  due.foldl (fun s timer =>
    let s := s.handle (.timer timer.id timer.task)
    if pumping then s.pump else s) (s.onHost (fun host => { host with timers }))

/-- Lets a new engine take the place of the old one.  The store stays, and so do the timers unless
the clock is set to a new start; queue, wake lock and device states are new. -/
def restart (s : Session) (env : Environment) (registry : Registry) (config : String)
    (clock : Option Int) : Except StartError Session :=
  let old := s.engine.host
  let timers := match clock with
    | some now => { now }
    | none => old.timers
  let host : Host := { timers, store := old.store, wall := old.wall }
  (engine? env registry config host s.engine.probe).map (fun engine => { s with engine })

/-- Lets the engine go on with another configuration. -/
def reload (s : Session) (env : Environment) (config : String) : Except ConfigError Session :=
  (Policy.parse env config).map (fun policy => { s with engine := s.engine.reload policy })

/-! ## Looking up -/

/-- How many documents were to be saved since the step began. -/
def saves (s : Session) : Nat := s.engine.host.store.saves - s.savedBefore

/-- The events that were put on record since the step began. -/
def audits (s : Session) : List AuditEvent :=
  (s.engine.host.store.trail.drop s.auditedBefore).filterMap AuditEntry.event

/-- The log of the plug-in since the step began. -/
def trace (s : Session) : List String := s.engine.probe.calls.map RoleCall.text

end Session

end DeviceStandby
