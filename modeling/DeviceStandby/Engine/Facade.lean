import DeviceStandby.Caller
import DeviceStandby.Engine.Dispatch
import DeviceStandby.Exemption.Grant
import DeviceStandby.Exemption.Query
import DeviceStandby.SystemEvent

/-!
# What callers can ask for

Each operation first makes sure that the engine is ready, then that the caller may act, and only
then looks at its arguments; one that is refused on the way changes nothing.  Exemptions are changed
and listed at once.  What concerns the state machine goes through the queue, so that it is seen in
the order in which it was asked for.
-/

namespace DeviceStandby.Engine

/-- Whether the engine is ready. -/
def ensureReady (e : Engine) : Except ServiceError Unit :=
  if e.ready then .ok () else .error .notReady

/-- Whether the engine is ready and the caller may act. -/
def authorize (e : Engine) (caller : Caller) (code : Option ReasonCode) : Except ServiceError Unit := do
  e.ensureReady
  caller.permitted code

/-- Carries out an operation on the exemption table if it is admitted. -/
def onTable {α : Type} (e : Engine) (admitted : Except ServiceError Unit)
    (act : Admission → Except ServiceError α × Admission) : Except ServiceError α × Engine :=
  match admitted with
  | .error error => (.error error, e)
  | .ok _ =>
    let (result, a) := act e.toAdmission
    (result, e.withAdmission a)

/-! ## Exemptions -/

/-- A request with the kinds only that the caller may ask for. -/
def narrowed (caller : Caller) (request : Request) : Request :=
  { request with mask := caller.exempted request.mask }

/-- Grants what a caller requests. -/
def apply (e : Engine) (caller : Caller) (request : Request) : Except ServiceError Unit × Engine :=
  e.onTable (e.authorize caller (some request.reasonCode))
    (fun a => a.grant (narrowed caller request) caller.pid)

/-- Takes back what a caller names. -/
def unapply (e : Engine) (caller : Caller) (request : Request) : Except ServiceError Unit × Engine :=
  e.onTable (e.authorize caller (some request.reasonCode))
    (fun a => a.unapply (narrowed caller request))

/-- Who is exempted from some kinds. -/
def allowList (e : Engine) (caller : Caller) (mask : Mask) (code : ReasonCode) :
    Except ServiceError (List Allowance) × Engine :=
  e.onTable (e.authorize caller (some code)) (fun a => a.allowList mask code)

/-- Who is restricted from some kinds. -/
def restrictList (e : Engine) (caller : Caller) (mask : Mask) (code : ReasonCode) :
    Except ServiceError (List Allowance) := do
  e.authorize caller (some code)
  e.toAdmission.restrictList mask code

/-- The names that a strategy has to restrict. -/
def restrictSet (e : Engine) (mask : Mask) (strategy : String) (code : ReasonCode) :
    Except ServiceError (List String) × Engine :=
  e.onTable e.ensureReady (fun a => a.restrictSet mask strategy code)

/-- Whether a strategy is configured. -/
def strategyEnabled (e : Engine) (caller : Caller) (strategy : String) :
    Except ServiceError Bool := do
  e.authorize caller none
  return e.policy.strategies.contains strategy

/-! ## Reports -/

/-- Posts a task on behalf of a caller. -/
def submit (e : Engine) (task : Task) : Except ServiceError Unit × Engine :=
  let (posted, host) := e.host.post task
  (if posted then .ok () else .error (.host HostError.queueClosed.message), { e with host })

/-- Posts a message for delivery. -/
def dispatch (e : Engine) (message : Message) : Except ServiceError Unit × Engine :=
  match e.ensureReady with
  | .error error => (.error error, e)
  | .ok _ => e.submit (.message message)

/-- Posts a message for delivery if the caller may act. -/
def report (e : Engine) (caller : Caller) (message : Message) : Except ServiceError Unit × Engine :=
  match e.authorize caller none with
  | .error error => (.error error, e)
  | .ok _ => e.submit (.message message)

/-- Takes note that scheduled work has started or ended. -/
def reportWork (e : Engine) (caller : Caller) (started : Bool) (uid : Uid) (name : String) :
    Except ServiceError Unit × Engine :=
  e.report caller (.workStatusChanged started uid name)

/-- Takes note that a process was created or has ended. -/
def reportProcess (e : Engine) (caller : Caller) (uid : Uid) (pid : Pid) (name : String)
    (created : Bool) : Except ServiceError Unit × Engine :=
  e.report caller (.processStateChanged uid pid name created)

/-- Records a device state, given by its number, and tells of it if it is news. -/
def recordDevice (e : Engine) (kind : Int) (enabled : Bool) : Except ServiceError Unit × Engine :=
  let (news, devices) := e.host.devices.report kind enabled
  let e := { e with host := { e.host with devices } }
  if news then e.submit (.message (.deviceStateChanged kind enabled)) else (.ok (), e)

/-- Takes note that an activity, given by its number, has begun or ended. -/
def reportDevice (e : Engine) (caller : Caller) (kind : Int) (enabled : Bool) :
    Except ServiceError Unit × Engine :=
  match e.authorize caller none with
  | .error error => (.error error, e)
  | .ok _ => e.recordDevice kind enabled

/-- Takes note of an observation of the host: of the device state that it carries, and then of its
message. -/
def receive (e : Engine) (event : SystemEvent) : Except ServiceError Unit × Engine :=
  match e.ensureReady with
  | .error error => (.error error, e)
  | .ok _ =>
    let (recorded, e) := match event.deviceState with
      | some (kind, active) => e.recordDevice kind.index active
      | none => (.ok (), e)
    match recorded, event.message with
    | .error error, _ => (.error error, e)
    | .ok _, some message => e.submit (.message message)
    | .ok _, none => (.ok (), e)

/-! ## Asking the state machine -/

/-- Asks for a snapshot through the queue, without waiting for it. -/
def requestSnapshot (e : Engine) : Except ServiceError Unit × Engine :=
  match e.ensureReady with
  | .error error => (.error error, e)
  | .ok _ => e.submit .snapshot

/-- What it says to have waited for a snapshot in vain. -/
def snapshotTimeout : ServiceError := .timeout "state snapshot"

/-- Asks for a snapshot and waits until everything that was in the queue has been handled; answers
also what that was. -/
def awaitSnapshot (e : Engine) : Except ServiceError Snapshot × List Task × Engine :=
  match e.requestSnapshot with
  | (.error error, e) => (.error error, [], e)
  | (.ok _, e) =>
    let (handled, e) := handleSome e.host.queue.tasks.length e
    (.ok e.snapshot, handled, e)

/-- Whether the device stands by. -/
def inStandby (e : Engine) (caller : Caller) : Except ServiceError Bool × List Task × Engine :=
  match e.authorize caller none with
  | .error error => (.error error, [], e)
  | .ok _ =>
    let (result, handled, e) := e.awaitSnapshot
    (result.map (fun snapshot => snapshot.state.inStandby), handled, e)

/-- The summary of a snapshot. -/
def summary (snapshot : Snapshot) : String :=
  "state: " ++ snapshot.state.name ++ ", phase: " ++ toString snapshot.phase
    ++ ", blocked: " ++ boolText snapshot.blocked
    ++ ", evaluating: " ++ boolText snapshot.evaluating ++ "\n"

/-- The listing of a snapshot, the configured strategies and the exemption table. -/
def dumpState (e : Engine) : Except ServiceError String × List Task × Engine :=
  let (result, handled, e) := e.awaitSnapshot
  (result.map (fun snapshot =>
    summary snapshot ++ "strategies: " ++ nameList e.policy.strategies ++ "\n"
      ++ e.toAdmission.dump), handled, e)

end DeviceStandby.Engine
