import DeviceStandby.Simulation.Session

/-!
# Steps of a session

Everything that can be done to a session, as a value: operations of the engine, of the exemption
table and of the facade, and changes of the host.  `Session.perform` carries a step out.  A step
answers with a document, or with the reason why it failed.
-/

namespace DeviceStandby

/-- What can be done to a session. -/
inductive SessionStep where
  /-- Makes the engine ready, given the running processes if they can be listed. -/
  | init (running : Option Processes)
  | uninit
  | restart (registry : Registry) (config : String) (clock : Option Int)
  | reload (config : String)
  | pump
  | pop
  | post (task : Task)
  | handle (task : Task)
  | advance (millis : Nat)
  | setWall (moment : Moment)
  | fail (failing : Failing) (on : Bool)
  /-- Scripts the answers of the constraint. -/
  | script (verdict : Option Verdict)
  | evaluating (on : Bool)
  | device (kind : Int) (on : Bool)
  | document
  | saveDocument (value : Value)
  | condition
  | dump
  | grant (request : Request) (pid : Pid)
  | takeBack (request : Request)
  | revoke (uid : Uid) (name : String) (mask : Mask) (force : Bool)
  | removeApp (uid : Uid) (name : String) (resetAll : Bool)
  | record (uid : Uid) (name : String)
  | receive (event : SystemEvent)
  | dispatch (message : Message)
  | apply (caller : Caller) (request : Request)
  | unapply (caller : Caller) (request : Request)
  | allowList (caller : Caller) (mask : Mask) (code : ReasonCode)
  | restrictList (caller : Caller) (mask : Mask) (code : ReasonCode)
  | restrictSet (mask : Mask) (strategy : String) (code : ReasonCode)
  | strategyEnabled (caller : Caller) (strategy : String)
  | reportWork (caller : Caller) (started : Bool) (uid : Uid) (name : String)
  | reportDevice (caller : Caller) (kind : Int) (on : Bool)
  | reportProcess (caller : Caller) (uid : Uid) (pid : Pid) (name : String) (created : Bool)
  | inStandby (caller : Caller)
  | snapshot
  | dumpState
  /-- Asks for a snapshot while nobody handles tasks. -/
  | snapshotUnanswered

namespace Session

/-- The answer to a step. -/
abbrev Answer := Except StartError Value

/-- The answer that a result of the engine makes. -/
def answer {α : Type} (write : α → Value) : Except ServiceError α → Answer
  | .ok value => .ok (write value)
  | .error error => .error (.service error)

/-- The empty answer. -/
def done : Unit → Value := fun _ => .null

/-- The names or texts of a list. -/
def textList (names : List String) : Value := .list (names.map .text)

/-- The lines of an allow or restrict list. -/
def allowances (list : List Allowance) : Value := .list (list.map Allowance.toValue)

/-- Carries out an operation of the engine. -/
def onEngine {α : Type} (s : Session) (write : α → Value)
    (act : Engine → Except ServiceError α × Engine) : Answer × Session :=
  let (result, engine) := act s.engine
  (answer write result, { s with engine })

/-- Carries out an operation of the exemption table. -/
def onTable {α : Type} (s : Session) (write : α → Value)
    (act : Admission → Except ServiceError α × Admission) : Answer × Session :=
  s.onEngine write (fun e => e.onTable (.ok ()) act)

/-- Carries out an operation that waits for the state machine. -/
def onLoop {α : Type} (s : Session) (write : α → Value)
    (act : Engine → Except ServiceError α × List Task × Engine) : Answer × Session :=
  let (result, handled, engine) := act s.engine
  (answer write result, { s with engine, handled := s.handled ++ handled })

/-- Asks the engine something. -/
def ask {α : Type} (s : Session) (write : α → Value) (act : Engine → Except ServiceError α) :
    Answer × Session :=
  (answer write (act s.engine), s)

/-- A step that always succeeds. -/
def moved (s : Session) : Answer × Session := (.ok .null, s)

/-- Changes the scripted constraint. -/
def onProbe (s : Session) (change : Probe → Probe) : Session :=
  { s with engine := { s.engine with probe := change s.engine.probe } }

/-- What the store holds under the name of the exemption table. -/
def storedTable (store : Store) : Value :=
  let document := store.document? recordsDocument
  .record [("found", .bool document.isSome), ("document", (document.bind id).getD .null)]

/-- Carries out a step.  While time is advanced, the queue is emptied after each timer if `pumping`
is set. -/
def perform (s : Session) (env : Environment) (pumping : Bool) : SessionStep → Answer × Session
  | .init running => s.onEngine done (fun e => e.init running)
  | .uninit => moved { s with engine := s.engine.uninit }
  | .restart registry config clock =>
    match s.restart env registry config clock with
    | .ok s => moved s
    | .error error => (.error error, s)
  | .reload config =>
    match s.reload env config with
    | .ok s => moved s
    | .error error => (.error (.config error), s)
  | .pump => moved s.pump
  | .pop => moved s.pop
  | .post task =>
    let (posted, host) := s.engine.host.post task
    (.ok (.bool posted), s.onHost (fun _ => host))
  | .handle task => moved (s.handle task)
  | .advance millis => moved (s.advance millis pumping)
  | .setWall moment => moved (s.onHost (fun host => { host with wall := moment }))
  | .fail failing on => moved (s.onHost (fun host => host.setFailing failing on))
  | .script verdict => moved (s.onProbe (fun probe => { probe with script := verdict }))
  | .evaluating on => moved (s.onProbe (fun probe => { probe with evaluating := on }))
  | .device kind on =>
    let (news, devices) := s.engine.host.devices.report kind on
    (.ok (.bool news), s.onHost (fun host => { host with devices }))
  | .document => (.ok (storedTable s.engine.host.store), s)
  | .saveDocument value =>
    moved (s.onHost (fun host => { host with store := host.store.put recordsDocument value }))
  | .condition => (.ok s.engine.toAdmission.condition.toValue, s)
  | .dump => (.ok (.text s.engine.dump), s)
  | .grant request pid => s.onTable done (fun a => a.grant request pid)
  | .takeBack request => s.onTable done (fun a => a.unapply request)
  | .revoke uid name mask force => s.onTable done (fun a => (.ok (), a.revoke uid name mask force))
  | .removeApp uid name resetAll => s.onTable done (fun a => (.ok (), a.removeApp uid name resetAll))
  | .record uid name =>
    (.ok (Value.ofOption Record.toValue (s.engine.toAdmission.record? uid name)), s)
  | .receive event => s.onEngine done (fun e => e.receive event)
  | .dispatch message => s.onEngine done (fun e => e.dispatch message)
  | .apply caller request => s.onEngine done (fun e => e.apply caller request)
  | .unapply caller request => s.onEngine done (fun e => e.unapply caller request)
  | .allowList caller mask code => s.onEngine allowances (fun e => e.allowList caller mask code)
  | .restrictList caller mask code => s.ask allowances (fun e => e.restrictList caller mask code)
  | .restrictSet mask strategy code => s.onEngine textList (fun e => e.restrictSet mask strategy code)
  | .strategyEnabled caller strategy =>
    s.ask Value.bool (fun e => e.strategyEnabled caller strategy)
  | .reportWork caller started uid name =>
    s.onEngine done (fun e => e.reportWork caller started uid name)
  | .reportDevice caller kind on => s.onEngine done (fun e => e.reportDevice caller kind on)
  | .reportProcess caller uid pid name created =>
    s.onEngine done (fun e => e.reportProcess caller uid pid name created)
  | .inStandby caller => s.onLoop Value.bool (fun e => e.inStandby caller)
  | .snapshot => s.onLoop Snapshot.toValue Engine.awaitSnapshot
  | .dumpState => s.onLoop Value.text Engine.dumpState
  | .snapshotUnanswered =>
    s.onEngine done (fun e =>
      match e.requestSnapshot with
      | (.ok _, e) => (.error Engine.snapshotTimeout, e)
      | (.error error, e) => (.error error, e))

/-- Carries out a step and then, if it succeeded and `pumping` is set, empties the queue.  What has
happened is looked up from the beginning of the step. -/
def take (s : Session) (env : Environment) (pumping : Bool) (step : SessionStep) :
    Answer × Session :=
  match s.beginStep.perform env pumping step with
  | (.ok value, s) => (.ok value, if pumping then s.pump else s)
  | (.error error, s) => (.error error, s)

end Session

end DeviceStandby
