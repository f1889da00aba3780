import DeviceStandby.Proofs.DeclaredKinds

/-!
# Refused calls

A call (`Engine.Call`) is served in three checks and an act: the engine has to be ready, the caller
has to be permitted, the arguments have to be right.  `Engine.refusal?` runs the checks in this
order and does nothing else.

Serving a call answers what the checks answer, and then leaves the engine as it was
(`Engine.serve_of_refusal`).  Behind the checks a call can still fail, because the queue is closed
or nobody answers, but with no error that counts as a refusal
(`Engine.isRejection_of_no_refusal`).
-/

namespace DeviceStandby.Engine

/-- What can be asked of the engine.  Whoever waits for a snapshot may not be answered in time. -/
inductive Call where
  | apply (caller : Caller) (request : Request)
  | unapply (caller : Caller) (request : Request)
  | allowList (caller : Caller) (mask : Mask) (code : ReasonCode)
  | restrictList (caller : Caller) (mask : Mask) (code : ReasonCode)
  | restrictSet (mask : Mask) (strategy : String) (code : ReasonCode)
  | inStandby (caller : Caller) (answered : Bool)
  | strategyEnabled (caller : Caller) (strategy : String)
  | reportWork (caller : Caller) (started : Bool) (uid : Uid) (name : String)
  | reportDevice (caller : Caller) (kind : Int) (enabled : Bool)
  | reportProcess (caller : Caller) (uid : Uid) (pid : Pid) (name : String) (created : Bool)
  | receive (event : SystemEvent)
  | dispatch (message : Message)
  | dumpState (answered : Bool)

/-- The error that a result holds. -/
def complaint {α : Type} : Except ServiceError α → Option ServiceError
  | .error error => some error
  | .ok _ => none

/-- The error that an operation answers, and what it leaves behind. -/
def outcome {α σ : Type} (served : Except ServiceError α × σ) : Option ServiceError × σ :=
  (complaint served.1, served.2)

/-- What a snapshot that was asked for and does not come in time leads to. -/
def waitInVain (e : Engine) : Except ServiceError Unit × Engine :=
  match e.requestSnapshot with
  | (.error error, e) => (.error error, e)
  | (.ok _, e) => (.error snapshotTimeout, e)

/-- Serves a call: the error it answers, if any, and the engine after it. -/
def serve (e : Engine) : Call → Option ServiceError × Engine
  | .apply caller request => outcome (e.apply caller request)
  | .unapply caller request => outcome (e.unapply caller request)
  | .allowList caller mask code => outcome (e.allowList caller mask code)
  | .restrictList caller mask code => (complaint (e.restrictList caller mask code), e)
  | .restrictSet mask strategy code => outcome (e.restrictSet mask strategy code)
  | .inStandby caller true =>
    let (result, _, e) := e.inStandby caller
    (complaint result, e)
  | .inStandby caller false =>
    match e.authorize caller none with
    | .error error => (some error, e)
    | .ok _ => outcome e.waitInVain
  | .strategyEnabled caller strategy => (complaint (e.strategyEnabled caller strategy), e)
  | .reportWork caller started uid name => outcome (e.reportWork caller started uid name)
  | .reportDevice caller kind enabled => outcome (e.reportDevice caller kind enabled)
  | .reportProcess caller uid pid name created =>
    outcome (e.reportProcess caller uid pid name created)
  | .receive event => outcome (e.receive event)
  | .dispatch message => outcome (e.dispatch message)
  | .dumpState true =>
    let (result, _, e) := e.dumpState
    (complaint result, e)
  | .dumpState false => outcome e.waitInVain

/-! ## The checks -/

namespace Call

/-- Who makes a call, and the reason code that has to be the caller's. -/
def asker? : Call → Option (Caller × Option ReasonCode)
  | apply caller request | unapply caller request => some (caller, some request.reasonCode)
  | allowList caller _ code | restrictList caller _ code => some (caller, some code)
  | inStandby caller _ | strategyEnabled caller _ | reportWork caller _ _ _
  | reportDevice caller _ _ | reportProcess caller _ _ _ _ => some (caller, none)
  | restrictSet _ _ _ | receive _ | dispatch _ | dumpState _ => none

/-- What is wrong with a mask. -/
def maskFlaw? (raw : Mask) : Option ServiceError := complaint (Admission.requested raw)

/-- What is wrong with a uid. -/
def uidFlaw? (uid : Uid) : Option ServiceError :=
  if uid.isValid then none else some (.validation "uid must not be negative")

/-- What is wrong with a duration. -/
def durationFlaw? (seconds : Int) : Option ServiceError :=
  if seconds < 0 then some (.validation "duration must not be negative") else none

/-- What is wrong with the arguments of a call.  Of a request only those kinds count that the caller
may ask for. -/
def flaw? : Call → Option ServiceError
  | apply caller request =>
    (maskFlaw? (caller.exempted request.mask)).or
      ((uidFlaw? request.uid).or (durationFlaw? request.durationSecs))
  | unapply caller request => (maskFlaw? (caller.exempted request.mask)).or (uidFlaw? request.uid)
  | allowList _ mask _ | restrictList _ mask _ | restrictSet mask _ _ => maskFlaw? mask
  | _ => none

/-- Why the caller may not make a call. -/
def denial? (call : Call) : Option ServiceError :=
  call.asker?.bind (fun asker => complaint (asker.1.permitted asker.2))

end Call

/-- Why a call is refused: readiness is checked first, then the caller, then the arguments. -/
def refusal? (e : Engine) (call : Call) : Option ServiceError :=
  (complaint e.ensureReady).or (call.denial?.or call.flaw?)

/-! ## Refusing -/

/-- `served` is what is answered when `refusal` is all that there is to refuse it for: the refusal,
with everything left as it was in `before`, or no refusal. -/
def Refuses {σ : Type} (before : σ) (refusal : Option ServiceError)
    (served : Option ServiceError × σ) : Prop :=
  match refusal with
  | some error => served = (some error, before)
  | none => ∀ error, served.1 = some error → error.isRejection = false

namespace Refuses

variable {σ α : Type} {before : σ} {flaw : Option ServiceError} {served : Option ServiceError × σ}

lemma of_success {after : σ} : Refuses before none (none, after) := nofun

/-- What a check lets pass is refused for what is found behind it. -/
lemma of_check {β : Type} {check : Except ServiceError β}
    (hfailed : ∀ error, check = .error error → served = (some error, before))
    (hpassed : ∀ value, check = .ok value → Refuses before flaw served) :
    Refuses before ((complaint check).or flaw) served := by
  cases check with
  | error error => exact hfailed error rfl
  | ok value => exact hpassed value rfl

/-- The same for a last check. -/
lemma of_last {β : Type} {check : Except ServiceError β}
    (hfailed : ∀ error, check = .error error → served = (some error, before))
    (hpassed : ∀ value, check = .ok value → Refuses before none served) :
    Refuses before (complaint check) served := by
  rw [← Option.or_none (o := complaint check)]
  exact of_check hfailed hpassed

/-- Something that is posted fails only because the queue is closed. -/
lemma submit (before after : Engine) (task : Task) :
    Refuses before none (outcome (after.submit task)) := by
  intro error herror
  unfold outcome Engine.submit at herror
  dsimp only at herror
  split at herror
  · cases herror
  · cases herror
    rfl

end Refuses

/-! ### On the exemption table -/

section Table

variable (a : Admission) {mask : Mask} {code : ReasonCode}

lemma refuses_grant (request : Request) (pid : Pid) :
    Refuses a ((Call.maskFlaw? request.mask).or
        ((Call.uidFlaw? request.uid).or (Call.durationFlaw? request.durationSecs)))
      (outcome (a.grant request pid)) := by
  refine .of_check (fun error herror => ?_) (fun mask hmask => ?_)
  · simp only [outcome, Admission.grant, herror, complaint]
  · simp only [outcome, Admission.grant, hmask, Call.uidFlaw?, Call.durationFlaw?]
    cases request.uid.isValid with
    | false => rfl
    | true =>
      by_cases hduration : request.durationSecs < 0
      · simp only [hduration, Bool.not_true, Bool.false_eq_true, if_true, if_false]
        rfl
      · simp only [hduration, Bool.not_true, Bool.false_eq_true, if_true, if_false]
        exact .of_success

lemma refuses_unapply (request : Request) :
    Refuses a ((Call.maskFlaw? request.mask).or (Call.uidFlaw? request.uid))
      (outcome (a.unapply request)) := by
  refine .of_check (fun error herror => ?_) (fun mask hmask => ?_)
  · simp only [outcome, Admission.unapply, herror, complaint]
  · simp only [outcome, Admission.unapply, hmask, Call.uidFlaw?]
    cases request.uid.isValid with
    | false => rfl
    | true => exact .of_success

lemma refuses_allowList : Refuses a (Call.maskFlaw? mask) (outcome (a.allowList mask code)) := by
  refine .of_last (fun error herror => ?_) (fun value hvalue => ?_)
  · simp only [outcome, Admission.allowList, herror, complaint]
  · simp only [outcome, Admission.allowList, hvalue]
    exact .of_success

lemma refuses_restrictSet (strategy : String) :
    Refuses a (Call.maskFlaw? mask) (outcome (a.restrictSet mask strategy code)) := by
  refine .of_last (fun error herror => ?_) (fun value hvalue => ?_)
  · simp only [outcome, Admission.restrictSet, Admission.allowList, herror, complaint]
  · simp only [outcome, Admission.restrictSet, Admission.allowList, hvalue]
    exact .of_success

end Table

/-! ### By the engine -/

variable (e : Engine)

/-- What stands in the way of a caller is that the engine is not ready, and only then that the
caller may not act. -/
lemma complaint_authorize (caller : Caller) (code : Option ReasonCode) :
    complaint (e.authorize caller code)
      = (complaint e.ensureReady).or (complaint (caller.permitted code)) := by
  unfold authorize
  rcases e.ensureReady with error | _
  · rfl
  · rfl

lemma refusal?_asked {call : Call} {caller : Caller} {code : Option ReasonCode}
    (hasker : call.asker? = some (caller, code)) :
    e.refusal? call = (complaint (e.authorize caller code)).or call.flaw? := by
  rw [refusal?, Call.denial?, hasker, complaint_authorize, Option.or_assoc]
  rfl

lemma refusal?_unasked {call : Call} (hasker : call.asker? = none) :
    e.refusal? call = (complaint e.ensureReady).or call.flaw? := by
  rw [refusal?, Call.denial?, hasker]
  rfl

lemma ensureReady_of_authorize {caller : Caller} {code : Option ReasonCode}
    (h : e.authorize caller code = .ok ()) : e.ensureReady = .ok () := by
  unfold authorize at h
  rcases hready : e.ensureReady with error | _
  · rw [hready] at h
    cases h
  · rfl

/-- An operation on the table refuses what it is not admitted for, and then what the table
refuses. -/
lemma refuses_onTable {α : Type} {flaw : Option ServiceError}
    {act : Admission → Except ServiceError α × Admission} (admitted : Except ServiceError Unit)
    (hact : Refuses e.toAdmission flaw (outcome (act e.toAdmission))) :
    Refuses e ((complaint admitted).or flaw) (outcome (e.onTable admitted act)) := by
  refine .of_check ?_ ?_
  · rintro error rfl
    rfl
  · rintro - rfl
    cases flaw with
    | none => exact hact
    | some error =>
      obtain ⟨hanswer, hleft⟩ := Prod.mk.inj hact
      have hafter : (e.onTable (.ok ()) act).2 = e := congrArg e.withAdmission hleft
      exact Prod.ext hanswer hafter

/-- A report is refused to those who may not make it. -/
lemma refuses_report (caller : Caller) (message : Message) :
    Refuses e ((complaint (e.authorize caller none)).or none) (outcome (e.report caller message)) := by
  unfold report
  refine .of_check (fun error herror => ?_) (fun value hvalue => ?_)
  · rw [herror]
    rfl
  · rw [hvalue]
    exact .submit e e _

lemma refuses_recordDevice (kind : Int) (enabled : Bool) :
    Refuses e none (outcome (e.recordDevice kind enabled)) := by
  unfold recordDevice
  dsimp only
  split
  · exact .submit e _ _
  · exact .of_success

lemma refuses_receive (event : SystemEvent) :
    Refuses e ((complaint e.ensureReady).or none) (outcome (e.receive event)) := by
  unfold receive
  refine .of_check (fun error herror => ?_) (fun value hvalue => ?_)
  · rw [herror]
    rfl
  · rw [hvalue]
    dsimp only
    cases event.deviceState with
    | none =>
      cases event.message with
      | none => exact .of_success
      | some message => exact .submit e e _
    | some reported =>
      have hrecorded := e.refuses_recordDevice reported.1.index reported.2
      dsimp only
      rcases h : e.recordDevice reported.1.index reported.2 with ⟨error | _, after⟩
      · rw [h] at hrecorded
        exact hrecorded
      · cases event.message with
        | none => exact .of_success
        | some message => exact .submit e after _

lemma refuses_dispatch (message : Message) :
    Refuses e ((complaint e.ensureReady).or none) (outcome (e.dispatch message)) := by
  unfold dispatch
  refine .of_check (fun error herror => ?_) (fun value hvalue => ?_)
  · rw [herror]
    rfl
  · rw [hvalue]
    exact .submit e e _

lemma refuses_waitInVain : Refuses e ((complaint e.ensureReady).or none) (outcome e.waitInVain) := by
  unfold waitInVain requestSnapshot
  refine .of_check (fun error herror => ?_) (fun value hvalue => ?_)
  · rw [herror]
    rfl
  · rw [hvalue]
    have hposted := Refuses.submit e e .snapshot
    dsimp only
    rcases h : e.submit .snapshot with ⟨error | _, after⟩
    · rw [h] at hposted
      exact hposted
    · rintro error ⟨⟩
      rfl

/-- Waiting for a snapshot is refused by an engine that is not ready; what is handled while waiting
does not come back as a refusal. -/
lemma refuses_awaitSnapshot {α : Type} (read : Snapshot → α) :
    Refuses e ((complaint e.ensureReady).or none)
      (complaint (e.awaitSnapshot.1.map read), e.awaitSnapshot.2.2) := by
  unfold awaitSnapshot requestSnapshot
  refine .of_check (fun error herror => ?_) (fun value hvalue => ?_)
  · rw [herror]
    rfl
  · rw [hvalue]
    have hposted := Refuses.submit e e .snapshot
    dsimp only
    rcases h : e.submit .snapshot with ⟨error | _, after⟩
    · rw [h] at hposted
      exact hposted
    · exact .of_success

lemma refuses_restrictList (caller : Caller) (mask : Mask) (code : ReasonCode) :
    Refuses e ((complaint (e.authorize caller (some code))).or (Call.maskFlaw? mask))
      (e.serve (.restrictList caller mask code)) := by
  refine .of_check (fun error herror => ?_) (fun value hvalue => ?_)
  · simp only [serve, restrictList, herror]
    rfl
  · refine .of_last (fun error herror => ?_) (fun mask hmask => ?_)
    · simp only [serve, restrictList, hvalue, bind, Except.bind, Admission.restrictList, herror]
      rfl
    · simp only [serve, restrictList, hvalue, bind, Except.bind, Admission.restrictList, hmask]
      exact .of_success

lemma refuses_inStandby (caller : Caller) (answered : Bool) :
    Refuses e ((complaint (e.authorize caller none)).or none)
      (e.serve (.inStandby caller answered)) := by
  refine .of_check (fun error herror => ?_) (fun value hvalue => ?_)
  · cases answered with
    | false => simp only [serve, herror]
    | true =>
      simp only [serve, inStandby, herror]
      rfl
  · have hready := e.ensureReady_of_authorize hvalue
    cases answered with
    | false =>
      simp only [serve, hvalue]
      have hwait := e.refuses_waitInVain
      rw [hready] at hwait
      exact hwait
    | true =>
      simp only [serve, inStandby, hvalue]
      have hawait := e.refuses_awaitSnapshot (fun snapshot => snapshot.state.inStandby)
      rw [hready] at hawait
      exact hawait

lemma refuses_strategyEnabled (caller : Caller) (strategy : String) :
    Refuses e ((complaint (e.authorize caller none)).or none)
      (e.serve (.strategyEnabled caller strategy)) := by
  refine .of_check (fun error herror => ?_) (fun value hvalue => ?_)
  · simp only [serve, strategyEnabled, herror]
    rfl
  · simp only [serve, strategyEnabled, hvalue]
    exact .of_success

lemma refuses_reportDevice (caller : Caller) (kind : Int) (enabled : Bool) :
    Refuses e ((complaint (e.authorize caller none)).or none)
      (e.serve (.reportDevice caller kind enabled)) := by
  refine .of_check (fun error herror => ?_) (fun value hvalue => ?_)
  · simp only [serve, reportDevice, herror]
    rfl
  · simp only [serve, reportDevice, hvalue]
    exact e.refuses_recordDevice kind enabled

/-- Serving a call refuses what the checks find, in their order, and nothing else. -/
theorem refuses_serve (call : Call) : Refuses e (e.refusal? call) (e.serve call) := by
  cases call with
  | apply caller request =>
    rw [e.refusal?_asked rfl]
    exact e.refuses_onTable _ (refuses_grant e.toAdmission (narrowed caller request) caller.pid)
  | unapply caller request =>
    rw [e.refusal?_asked rfl]
    exact e.refuses_onTable _ (refuses_unapply e.toAdmission (narrowed caller request))
  | allowList =>
    rw [e.refusal?_asked rfl]
    exact e.refuses_onTable _ (refuses_allowList e.toAdmission)
  | restrictList caller mask code =>
    rw [e.refusal?_asked rfl]
    exact e.refuses_restrictList caller mask code
  | restrictSet mask strategy code =>
    rw [e.refusal?_unasked rfl]
    exact e.refuses_onTable _ (refuses_restrictSet e.toAdmission strategy)
  | inStandby caller answered =>
    rw [e.refusal?_asked rfl]
    exact e.refuses_inStandby caller answered
  | strategyEnabled caller strategy =>
    rw [e.refusal?_asked rfl]
    exact e.refuses_strategyEnabled caller strategy
  | reportWork caller started uid name =>
    rw [e.refusal?_asked rfl]
    exact e.refuses_report caller _
  | reportDevice caller kind enabled =>
    rw [e.refusal?_asked rfl]
    exact e.refuses_reportDevice caller kind enabled
  | reportProcess caller uid pid name created =>
    rw [e.refusal?_asked rfl]
    exact e.refuses_report caller _
  | receive event =>
    rw [e.refusal?_unasked rfl]
    exact e.refuses_receive event
  | dispatch message =>
    rw [e.refusal?_unasked rfl]
    exact e.refuses_dispatch message
  | dumpState answered =>
    rw [e.refusal?_unasked rfl]
    cases answered with
    | false => exact e.refuses_waitInVain
    | true => exact e.refuses_awaitSnapshot _

lemma refusal?_of_not_ready (call : Call) (h : e.ready = false) :
    e.refusal? call = some .notReady := by
  simp [refusal?, ensureReady, h, complaint]

lemma refusal?_of_ready (call : Call) (h : e.ready = true) :
    e.refusal? call = call.denial?.or call.flaw? := by
  simp [refusal?, ensureReady, h, complaint]

lemma serve_of_refusal {call : Call} {error : ServiceError} (h : e.refusal? call = some error) :
    e.serve call = (some error, e) := by
  have hserve := e.refuses_serve call
  rw [h] at hserve
  exact hserve

lemma isRejection_of_denial {call : Call} {error : ServiceError} (h : call.denial? = some error) :
    error.isRejection = true := by
  obtain ⟨⟨caller, code⟩, -, hdenied⟩ := Option.bind_eq_some_iff.1 h
  unfold Caller.permitted at hdenied
  split at hdenied
  · cases hdenied
  · split_ifs at hdenied <;> cases hdenied <;> rfl

lemma isRejection_of_flaw {call : Call} {error : ServiceError} (h : call.flaw? = some error) :
    error.isRejection = true := by
  have hmask : ∀ mask, Call.maskFlaw? mask = some error → error.isRejection = true := by
    intro mask hmask
    unfold Call.maskFlaw? Admission.requested at hmask
    split at hmask
    · cases hmask
    · cases hmask
      rfl
  have huid : ∀ uid, Call.uidFlaw? uid = some error → error.isRejection = true := by
    intro uid huid
    unfold Call.uidFlaw? at huid
    split_ifs at huid
    cases huid
    rfl
  have hduration : ∀ seconds, Call.durationFlaw? seconds = some error →
      error.isRejection = true := by
    intro seconds hduration
    unfold Call.durationFlaw? at hduration
    split_ifs at hduration
    cases hduration
    rfl
  cases call with
  | apply caller request =>
    rw [Call.flaw?, Option.or_eq_some_iff, Option.or_eq_some_iff] at h
    rcases h with h | ⟨-, h | ⟨-, h⟩⟩
    · exact hmask _ h
    · exact huid _ h
    · exact hduration _ h
  | unapply caller request =>
    rw [Call.flaw?, Option.or_eq_some_iff] at h
    rcases h with h | ⟨-, h⟩
    · exact hmask _ h
    · exact huid _ h
  | allowList | restrictList | restrictSet => exact hmask _ h
  | _ => cases h

/-- What the checks find counts as a refusal. -/
lemma isRejection_of_refusal {call : Call} {error : ServiceError}
    (h : e.refusal? call = some error) : error.isRejection = true := by
  rw [refusal?, Option.or_eq_some_iff, Option.or_eq_some_iff] at h
  rcases h with h | ⟨-, h | ⟨-, h⟩⟩
  · unfold ensureReady at h
    split at h <;> cases h
    rfl
  · exact isRejection_of_denial h
  · exact isRejection_of_flaw h

lemma isRejection_of_no_refusal {call : Call} {error : ServiceError} {after : Engine}
    (h : e.refusal? call = none) (hserve : e.serve call = (some error, after)) :
    error.isRejection = false := by
  have hnone := e.refuses_serve call
  rw [h] at hnone
  exact hnone error (by rw [hserve])

/-- An engine that is not ready answers every call with that, whoever makes it.  A ready engine
answers a caller who may not make a call with what stands against the caller, even if the arguments
are wrong as well, and a caller who may with what is wrong with the arguments.  Whenever the answer
counts as a refusal, nothing at all has changed: neither the exemptions nor what is stored of them,
neither the queue, the timers, the audit trail nor the device states. -/
theorem refused_calls_change_nothing (e : Engine) (call : Call) :
    (e.ready = false → e.serve call = (some .notReady, e)) ∧
    (e.ready = true → ∀ caller code error, call.asker? = some (caller, code) →
      caller.permitted code = .error error → e.serve call = (some error, e)) ∧
    (e.ready = true → call.denial? = none → ∀ error, call.flaw? = some error →
      e.serve call = (some error, e)) ∧
    ∀ error after, e.serve call = (some error, after) → error.isRejection = true → after = e := by
  refine ⟨?_, ?_, ?_, ?_⟩
  · exact fun hready => e.serve_of_refusal (e.refusal?_of_not_ready call hready)
  · intro hready caller code error hasker hpermitted
    have hdenial : call.denial? = some error := by
      rw [Call.denial?, hasker, Option.bind_some, hpermitted]
      rfl
    refine e.serve_of_refusal ?_
    rw [e.refusal?_of_ready call hready, hdenial, Option.some_or]
  · intro hready hdenial error hflaw
    refine e.serve_of_refusal ?_
    rw [e.refusal?_of_ready call hready, hdenial, Option.none_or, hflaw]
  · intro error after hserve hrejection
    cases hrefusal : e.refusal? call with
    | some cause =>
      have hcause := e.serve_of_refusal hrefusal
      rw [hserve] at hcause
      exact (Prod.mk.inj hcause).2
    | none =>
      have hnone := e.isRejection_of_no_refusal hrefusal hserve
      rw [hrejection] at hnone
      cases hnone

/-- Somebody asks for no kind of exemption at all: while the engine is not ready, without the
permission, and as a native caller. -/
theorem empty_requests_are_refused :
    let e := servingMail
    let resting := { e with ready := false }
    let stranger : Caller := ⟨10001, 77, .app false true [101]⟩
    let nothing : Request := { mailRequest with mask := 0 }
    resting.serve (.apply stranger nothing) = (some .notReady, resting) ∧
      e.serve (.apply stranger nothing)
        = (some (.permissionDenied "uid 10001 lacks the exemption permission"), e) ∧
      e.serve (.apply (.native 0 1) nothing)
        = (some (.validation "invalid resource mask 0x0"), e) ∧
      (e.serve (.dumpState false)).1 = some (.timeout "state snapshot") ∧
      ∀ after, e.serve (.unapply stranger nothing)
        = (some (.permissionDenied "uid 10001 lacks the exemption permission"), after) →
          after = e := by
  intro e resting stranger nothing
  obtain ⟨hresting, -, -, -⟩ := refused_calls_change_nothing resting (.apply stranger nothing)
  obtain ⟨-, hstranger, -, -⟩ := refused_calls_change_nothing e (.apply stranger nothing)
  obtain ⟨-, -, hnative, -⟩ := refused_calls_change_nothing e (.apply (.native 0 1) nothing)
  obtain ⟨-, -, -, hunchanged⟩ := refused_calls_change_nothing e (.unapply stranger nothing)
  refine ⟨hresting rfl, ?_, ?_, by decide +kernel, ?_⟩
  · exact hstranger rfl stranger (some .app) _ rfl (by decide +kernel)
  · exact hnative rfl rfl _ (by decide +kernel)
  · exact fun after hserve => hunchanged _ after hserve rfl

end DeviceStandby.Engine
