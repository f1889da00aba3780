import DeviceStandby.Engine.Facade
import DeviceStandby.Proofs.Operations
import DeviceStandby.Proofs.QuietMachine
import DeviceStandby.Proofs.TableInvariant

/-!
# What an engine does to exemptions and their timers

A step of the engine is quiet (`Engine.Quiet`) if it leaves the exemption table alone, the timers
that revoke exemptions, the clock and the stored table.  Starting the roles, letting them rest and
driving the state machine are quiet, and so is everything that is only told to somebody.

Whatever an engine is asked to do (`Engine.Act`) comes down to quiet steps and operations on the
table, one after the other: the engine evolves (`Engine.evolves_act`).  So the table stays well
formed (`Engine.Evolves.wellFormed`).  Starting the engine is the one exception: when the roles are
up (`Engine.rise`), the stored table is recovered.
-/

namespace DeviceStandby.Engine

/-- The timers that the engine and its state machine remember do not revoke exemptions. -/
structure Tidy (e : Engine) : Prop where
  numbered : e.host.timers.Numbered
  state : ∀ id, e.machine.stateTimer = some id → e.host.timers.Foreign id
  phase : ∀ id, e.machine.phaseTimer = some id → e.host.timers.Foreign id
  dayNight : ∀ id, e.dayNightTimer = some id → e.host.timers.Foreign id

/-- A step leaves the exemptions as they are.  From a tidy engine it leaves it tidy, and leaves what
the exemptions rest on as it is. -/
structure Quiet (before after : Engine) : Prop where
  table : after.table = before.table
  tidy : before.Tidy → after.Tidy ∧ Host.Quiet before.host after.host

namespace Quiet

variable {e next last : Engine}

lemma refl (e : Engine) : Quiet e e := ⟨rfl, fun h => ⟨h, .refl e.host⟩⟩

lemma trans (first : Quiet e next) (second : Quiet next last) : Quiet e last := by
  refine ⟨second.table.trans first.table, fun htidy => ?_⟩
  obtain ⟨hnext, hhost⟩ := first.tidy htidy
  obtain ⟨hlast, hhost'⟩ := second.tidy hnext
  exact ⟨hlast, hhost.trans hhost'⟩

/-- A step that touches neither the table, nor timers, nor documents is quiet. -/
lemma of_same (htable : next.table = e.table) (htimers : next.host.timers = e.host.timers)
    (hdocuments : next.host.store.documents = e.host.store.documents)
    (hmachine : next.machine = e.machine) (hdayNight : next.dayNightTimer = e.dayNightTimer) :
    Quiet e next := by
  refine ⟨htable, fun htidy => ⟨⟨?_, ?_, ?_, ?_⟩, .of_same htimers hdocuments⟩⟩
  · rw [htimers]; exact htidy.numbered
  · rw [htimers, hmachine]; exact htidy.state
  · rw [htimers, hmachine]; exact htidy.phase
  · rw [htimers, hdayNight]; exact htidy.dayNight

end Quiet

/-! ## Quiet steps -/

variable (e : Engine)

lemma quiet_drive {step : Rig Probe → Rig Probe} (hstep : ∀ rig, Rig.Quiet rig (step rig)) :
    Quiet e (e.drive step) := by
  refine ⟨rfl, fun htidy => ?_⟩
  obtain ⟨hrig, hhost⟩ :=
    hstep ⟨e.machine, e.host, e.probe⟩ ⟨htidy.numbered, htidy.state, htidy.phase⟩
  exact ⟨⟨hrig.numbered, hrig.state, hrig.phase,
    fun id hid => hhost.foreign (htidy.dayNight id hid)⟩, hhost⟩

lemma quiet_note (call : RoleCall) : Quiet e (e.note call) := by
  unfold note
  split <;> exact .of_same rfl rfl rfl rfl rfl

lemma quiet_audit (event : AuditEvent) : Quiet e (e.audit event) :=
  .of_same rfl (by simp [audit]) (by simp [audit]) rfl rfl

/-- The timer for the change between day and night may be replaced. -/
lemma quiet_armDayNight : Quiet e e.armDayNight := by
  refine ⟨rfl, fun htidy => ?_⟩
  have hcancel : Host.Quiet e.host (e.host.cancel? e.dayNightTimer) := .cancel? htidy.dayNight
  have htask : TimerTask.dayNightSwitch.isRevoke = false := rfl
  unfold armDayNight
  dsimp only
  generalize e.policy.night.untilNextEdge _ * 1000 = delay
  have harm := Host.Quiet.arm (e.host.cancel? e.dayNightTimer) delay htask
  have hquiet := hcancel.trans harm
  refine ⟨⟨hquiet.numbered htidy.numbered, ?_, ?_, ?_⟩, hquiet⟩
  · exact fun id hid => hquiet.foreign (htidy.state id hid)
  · exact fun id hid => hquiet.foreign (htidy.phase id hid)
  · exact fun id hid => Host.Quiet.foreign_arm htask (hcancel.numbered htidy.numbered) hid

lemma quiet_reload (policy : Policy) : Quiet e (e.reload policy) := by
  have hpolicy : Quiet e { e with policy } := .of_same rfl rfl rfl rfl rfl
  unfold reload
  dsimp only
  split
  · exact hpolicy.trans (quiet_armDayNight _)
  · exact hpolicy

lemma quiet_bringUp (call : RoleCall) {act : Engine → Engine} (hact : ∀ e, Quiet e (act e)) :
    Quiet e (e.bringUp call act).2 := by
  unfold bringUp
  dsimp only
  split
  · exact quiet_note e call
  · exact (quiet_note e call).trans (hact _)

lemma quiet_bringUpAll {roles : List (RoleCall × (Engine → Engine))}
    (hroles : ∀ role ∈ roles, ∀ e, Quiet e (role.2 e)) : Quiet e (bringUpAll roles e).2 := by
  induction roles generalizing e with
  | nil => exact .refl e
  | cons role roles ih =>
    obtain ⟨call, act⟩ := role
    have hfirst := quiet_bringUp e call (hroles (call, act) List.mem_cons_self)
    rw [bringUpAll]
    rcases h : e.bringUp call act with ⟨_ | _, raised⟩
    · rw [h] at hfirst
      exact hfirst
    · rw [h] at hfirst
      exact hfirst.trans (ih raised (fun role hmem => hroles role (List.mem_cons_of_mem _ hmem)))

/-- The timer for the change between day and night may be cancelled. -/
lemma quiet_cancelDayNight : Quiet e
    { e with host := e.host.cancel? e.dayNightTimer, dayNightTimer := none, ready := false } := by
  refine ⟨rfl, fun htidy => ?_⟩
  have hcancel : Host.Quiet e.host (e.host.cancel? e.dayNightTimer) := .cancel? htidy.dayNight
  exact ⟨⟨hcancel.numbered htidy.numbered, fun id hid => hcancel.foreign (htidy.state id hid),
    fun id hid => hcancel.foreign (htidy.phase id hid), fun id hid => by cases hid⟩, hcancel⟩

lemma quiet_uninit : Quiet e e.uninit := by
  unfold uninit
  split
  · exact .refl e
  · dsimp only
    refine .trans ?_ (quiet_audit _ _)
    refine .trans ?_ (quiet_cancelDayNight _)
    refine .trans ?_ (quiet_drive _ Rig.quiet_uninit)
    refine .trans ?_ (quiet_note _ _)
    refine .trans (.trans ?_ (quiet_note _ .strategyUninit)) (.of_same rfl rfl rfl rfl rfl)
    refine .trans ?_ (quiet_note _ .constraintUninit)
    refine .trans ?_ (quiet_note _ _)
    refine .trans (.trans ?_ (quiet_note _ .listenerStop)) (.of_same rfl rfl rfl rfl rfl)
    exact .of_same rfl rfl rfl rfl rfl

/-! ## Starting -/

/-- Brings up the roles and arms the timer for the change between day and night; says whether all of
them came up. -/
def rise (e : Engine) : Bool × Engine :=
  match e.bringUp .stateInit (fun e => e.drive Rig.init) with
  | (.error _, e) => (false, e)
  | (.ok _, e) =>
    match bringUpAll laterRoles e with
    | (.error _, e) => (false, e)
    | (.ok _, e) => (true, e.armDayNight)

/-- When the roles are up, the stored table is recovered. -/
lemma init_state (running : Option Processes) : (e.init running).2 =
    if e.ready then e
    else match e.rise with
      | (false, risen) => risen
      | (true, risen) =>
        ({ risen with
          toAdmission := risen.toAdmission.recover running
          ready := true } : Engine).audit (.serviceStarted risen.pluginName) := by
  unfold init rise
  split
  · rfl
  · rcases e.bringUp .stateInit (fun e => e.drive Rig.init) with ⟨_ | _, first⟩
    · rfl
    · dsimp only
      rcases bringUpAll laterRoles first with ⟨_ | _, later⟩ <;> rfl

lemma quiet_rise : Quiet e e.rise.2 := by
  unfold rise
  have hfirst := quiet_bringUp e .stateInit (fun e => quiet_drive e Rig.quiet_init)
  rcases h : e.bringUp .stateInit (fun e => e.drive Rig.init) with ⟨_ | _, first⟩
  · rw [h] at hfirst
    exact hfirst
  · rw [h] at hfirst
    have hroles : ∀ role ∈ laterRoles, ∀ e, Quiet e (role.2 e) := by
      intro role hmem e
      simp only [laterRoles, List.mem_cons, List.not_mem_nil, or_false] at hmem
      rcases hmem with rfl | rfl | rfl | rfl <;> exact .of_same rfl rfl rfl rfl rfl
    have hlater := hfirst.trans (quiet_bringUpAll first hroles)
    dsimp only
    rcases h' : bringUpAll laterRoles first with ⟨_ | _, later⟩
    · rw [h'] at hlater
      exact hlater
    · rw [h'] at hlater
      exact hlater.trans (quiet_armDayNight later)

end DeviceStandby.Engine

/-! ## Evolution -/

namespace DeviceStandby

/-- The seconds that are asked for are a number of 32 bits. -/
def Request.InRange (request : Request) : Prop := Width.int32.holds request.durationSecs = true

lemma Request.InRange.durationSecs_le {request : Request} (h : request.InRange) :
    request.durationSecs ≤ 0x7FFFFFFF :=
  of_decide_eq_true (Bool.and_eq_true_iff.1 h).2

/-- If the operation grants something, its request is in range. -/
def Operation.InRange : Operation → Prop
  | .grant request _ => request.InRange
  | _ => True

namespace Engine

/-- One engine comes from another by quiet steps and by operations on the table that have a
property. -/
inductive Evolves (P : Operation → Prop) : Engine → Engine → Prop where
  | quiet {e next : Engine} (h : Quiet e next) : Evolves P e next
  | operate (e : Engine) (operation : Operation) (h : P operation) :
      Evolves P e (e.withAdmission (e.toAdmission.perform operation))
  | trans {e next last : Engine} (first : Evolves P e next) (second : Evolves P next last) :
      Evolves P e last

namespace Evolves

variable {P Q : Operation → Prop} {e next : Engine}

lemma mono (h : Evolves P e next) (himp : ∀ operation, P operation → Q operation) :
    Evolves Q e next := by
  induction h with
  | quiet hquiet => exact .quiet hquiet
  | operate e operation hoperation => exact .operate e operation (himp operation hoperation)
  | trans _ _ ihfirst ihsecond => exact ihfirst.trans ihsecond

/-- Whatever the operations are, they keep the table well formed. -/
lemma wellFormed (h : Evolves P e next) (htable : e.table.WellFormed) : next.table.WellFormed := by
  induction h with
  | quiet hquiet => exact hquiet.table ▸ htable
  | operate e operation _ => exact e.toAdmission.perform_wellFormed operation htable
  | trans _ _ ihfirst ihsecond => exact ihsecond (ihfirst htable)

end Evolves

/-- What an engine can be asked to do, once it was made and apart from starting. -/
inductive Act where
  | uninit
  | reload (policy : Policy)
  /-- The exemption table is used directly. -/
  | operate (operation : Operation)
  | apply (caller : Caller) (request : Request)
  | unapply (caller : Caller) (request : Request)
  | allowList (caller : Caller) (mask : Mask) (code : ReasonCode)
  | restrictSet (mask : Mask) (strategy : String) (code : ReasonCode)
  | submit (task : Task)
  | dispatch (message : Message)
  | report (caller : Caller) (message : Message)
  | reportDevice (caller : Caller) (kind : Int) (enabled : Bool)
  | receive (event : SystemEvent)
  | handle (task : Task)
  | handleNext
  /-- Somebody asks for a snapshot and waits for it. -/
  | awaitSnapshot

/-- The engine after it did what it was asked to, or refused to. -/
def act (e : Engine) : Act → Engine
  | .uninit => e.uninit
  | .reload policy => e.reload policy
  | .operate operation => e.withAdmission (e.toAdmission.perform operation)
  | .apply caller request => (e.apply caller request).2
  | .unapply caller request => (e.unapply caller request).2
  | .allowList caller mask code => (e.allowList caller mask code).2
  | .restrictSet mask strategy code => (e.restrictSet mask strategy code).2
  | .submit task => (e.submit task).2
  | .dispatch message => (e.dispatch message).2
  | .report caller message => (e.report caller message).2
  | .reportDevice caller kind enabled => (e.reportDevice caller kind enabled).2
  | .receive event => (e.receive event).2
  | .handle task => e.handle task
  | .handleNext => (e.handleNext.map Prod.snd).getD e
  | .awaitSnapshot => e.awaitSnapshot.2.2

/-- If the engine is asked to grant something, the request is in range. -/
def Act.InRange : Act → Prop
  | .operate operation => operation.InRange
  | .apply _ request => request.InRange
  | _ => True

variable (e : Engine)

/-- An admitted operation is carried out, and one that is refused leaves the engine as it was. -/
lemma evolves_onTable {α : Type} {P : Operation → Prop} (admitted : Except ServiceError Unit)
    {act : Admission → Except ServiceError α × Admission} (operation : Operation)
    (hoperation : P operation) (hact : (act e.toAdmission).2 = e.toAdmission.perform operation) :
    Evolves P e (e.onTable admitted act).2 := by
  unfold onTable
  cases admitted with
  | error error => exact .quiet (.refl e)
  | ok =>
    show Evolves P e (e.withAdmission (act e.toAdmission).2)
    rw [hact]
    exact .operate e operation hoperation

lemma quiet_submit (task : Task) : Quiet e (e.submit task).2 := by
  show Quiet e { e with host := (e.host.post task).2 }
  exact .of_same rfl (by simp) (by simp) rfl rfl

lemma quiet_recordDevice (kind : Int) (enabled : Bool) :
    Quiet e (e.recordDevice kind enabled).2 := by
  unfold recordDevice
  have hrecorded : Quiet e { e with
      host := { e.host with devices := (e.host.devices.report kind enabled).2 } } :=
    .of_same rfl rfl rfl rfl rfl
  dsimp only
  split
  · exact hrecorded.trans (quiet_submit _ _)
  · exact hrecorded

lemma quiet_receive (event : SystemEvent) : Quiet e (e.receive event).2 := by
  unfold receive
  cases e.ensureReady with
  | error error => exact .refl e
  | ok =>
    rcases event.deviceState with _ | ⟨kind, active⟩
    · cases event.message with
      | none => exact .refl e
      | some message => exact quiet_submit e _
    · have hrecorded := quiet_recordDevice e kind.index active
      dsimp only
      rcases h : e.recordDevice kind.index active with ⟨_ | _, recorded⟩
      · rw [h] at hrecorded
        exact hrecorded
      · rw [h] at hrecorded
        cases event.message with
        | none => exact hrecorded
        | some message => exact hrecorded.trans (quiet_submit recorded _)

/-- What a message asks of the engine itself is to remove an app, or to wait for another time. -/
lemma evolves_keepHouse (message : Message) :
    Evolves Operation.InRange e (e.keepHouse message) := by
  unfold keepHouse
  split
  · split
    · rename_i uid name _ _
      exact .operate e (.removeApp uid name true) trivial
    · exact .quiet (.refl e)
  · split
    · exact .quiet (quiet_armDayNight e)
    · exact .quiet (.refl e)

lemma evolves_deliver (message : Message) : Evolves Operation.InRange e (e.deliver message) := by
  unfold deliver
  split
  · exact .quiet (.refl e)
  · dsimp only
    refine .trans (.quiet ?_) (evolves_keepHouse _ _)
    refine .trans (.trans ?_ (quiet_note _ .strategyEvent)) (.of_same rfl rfl rfl rfl rfl)
    refine .trans ?_ (quiet_drive _ (fun rig => Rig.quiet_handleEvent rig _ _ _))
    refine .trans (.trans ?_ (quiet_note _ _)) (quiet_note _ .stateEvent)
    exact .of_same rfl rfl rfl rfl rfl

/-- A sleeping engine is told of the new condition when day turns to night, or night to day. -/
lemma evolves_onDayNight (id : TimerId) : Evolves Operation.InRange e (e.onDayNight id) := by
  unfold onDayNight
  split
  · exact .quiet (.refl e)
  · have hforget : Quiet e { e with dayNightTimer := none } := by
      refine ⟨rfl, fun htidy => ⟨?_, .refl _⟩⟩
      exact ⟨htidy.numbered, htidy.state, htidy.phase, fun id hid => by cases hid⟩
    dsimp only
    split
    · exact .quiet hforget
    · refine .trans ?_ (.quiet (quiet_armDayNight _))
      split
      · exact .trans (.quiet hforget) (evolves_deliver _ _)
      · exact .quiet hforget

lemma evolves_onTimer (id : TimerId) (task : TimerTask) :
    Evolves Operation.InRange e (e.onTimer id task) := by
  unfold onTimer
  split
  · split
    · exact .quiet ((quiet_note e _).trans
        (quiet_drive _ (fun rig => Rig.quiet_onTimer rig _ _ _ _)))
    · exact .quiet (.refl e)
  · split
    · exact .quiet ((quiet_note e _).trans
        (quiet_drive _ (fun rig => Rig.quiet_onTimer rig _ _ _ _)))
    · exact .quiet (.refl e)
  · rename_i uid name mask
    exact .operate e (.expire uid name mask) trivial
  · exact evolves_onDayNight e id

lemma evolves_handle (task : Task) : Evolves Operation.InRange e (e.handle task) := by
  unfold handle
  split
  · exact evolves_deliver e _
  · exact evolves_onTimer e _ _
  · split
    · exact .quiet ((quiet_note e _).trans
        (quiet_drive _ (fun rig => Rig.quiet_endEvaluation rig _ _)))
    · exact .quiet (.refl e)
  · exact .quiet (.refl e)

lemma evolves_handleNext : Evolves Operation.InRange e ((e.handleNext.map Prod.snd).getD e) := by
  unfold handleNext
  split
  · exact .quiet (.refl e)
  · refine .trans (.quiet ?_) (evolves_handle _ _)
    exact .of_same rfl rfl rfl rfl rfl

lemma evolves_handleSome (count : Nat) : Evolves Operation.InRange e (handleSome count e).2 := by
  induction count generalizing e with
  | zero => exact .quiet (.refl e)
  | succ count ih =>
    have hnext := evolves_handleNext e
    rw [handleSome]
    rcases h : e.handleNext with _ | ⟨task, next⟩
    · exact .quiet (.refl e)
    · rw [h] at hnext
      exact .trans hnext (ih next)

lemma evolves_awaitSnapshot : Evolves Operation.InRange e e.awaitSnapshot.2.2 := by
  unfold awaitSnapshot requestSnapshot
  cases e.ensureReady with
  | error error => exact .quiet (.refl e)
  | ok =>
    have hsubmit := quiet_submit e .snapshot
    dsimp only
    rcases h : e.submit .snapshot with ⟨_ | _, asked⟩
    · rw [h] at hsubmit
      exact .quiet hsubmit
    · rw [h] at hsubmit
      exact .trans (.quiet hsubmit) (evolves_handleSome _ _)

/-- Whatever an engine is asked to do, it evolves by quiet steps and operations on the table, which
are in range if the request is. -/
theorem evolves_act (act : Act) :
    Evolves (fun operation => act.InRange → operation.InRange) e (e.act act) := by
  have always : ∀ {next : Engine}, Evolves Operation.InRange e next →
      Evolves (fun operation => act.InRange → operation.InRange) e next :=
    fun hevolves => hevolves.mono (fun _ hrange _ => hrange)
  cases act with
  | uninit => exact .quiet (quiet_uninit e)
  | reload policy => exact .quiet (quiet_reload e policy)
  | operate operation => exact .operate e operation id
  | apply caller request =>
    exact evolves_onTable e _ (.grant (narrowed caller request) caller.pid) id rfl
  | unapply caller request =>
    exact always (evolves_onTable e _ (.unapply (narrowed caller request)) trivial rfl)
  | allowList caller mask code =>
    exact always (evolves_onTable e _ (.allowList mask code) trivial rfl)
  | restrictSet mask strategy code =>
    exact always (evolves_onTable e _ (.restrictSet mask strategy code) trivial rfl)
  | submit task => exact .quiet (quiet_submit e task)
  | dispatch message =>
    simp only [act, dispatch]
    split
    · exact .quiet (.refl e)
    · exact .quiet (quiet_submit e _)
  | report caller message =>
    simp only [act, report]
    split
    · exact .quiet (.refl e)
    · exact .quiet (quiet_submit e _)
  | reportDevice caller kind enabled =>
    simp only [act, reportDevice]
    split
    · exact .quiet (.refl e)
    · exact .quiet (quiet_recordDevice e _ _)
  | receive event => exact .quiet (quiet_receive e event)
  | handle task => exact always (evolves_handle e task)
  | handleNext => exact always (evolves_handleNext e)
  | awaitSnapshot => exact always (evolves_awaitSnapshot e)

end Engine

end DeviceStandby
