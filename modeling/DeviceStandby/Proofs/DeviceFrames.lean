import DeviceStandby.Proofs.EngineMachine
import DeviceStandby.Proofs.Recoveries

/-!
# What is known of activities changes by reports only

The host remembers which activities go on.  Neither the machine nor the exemption table writes there,
nor does anything that an engine does of its own accord; only `Engine.reportDevice` and
`Engine.receive` do, for the one activity that is reported.  `EngineRun.get_after` says this of a
move, and `EngineRun.get_afterAll` of any number of them: what is known of an activity stays until
the opposite is reported.
-/

namespace DeviceStandby

namespace Host

variable (host : Host)

@[simp] lemma arm_devices (delay : Nat) (task : TimerTask) :
    (host.arm delay task).2.devices = host.devices := rfl

@[simp] lemma cancel?_devices (number : Option TimerId) :
    (host.cancel? number).devices = host.devices := by cases number <;> rfl

@[simp] lemma post_devices (task : Task) : (host.post task).2.devices = host.devices := by
  unfold post
  split <;> rfl

@[simp] lemma announce_devices (message : Message) :
    (host.announce message).devices = host.devices := host.post_devices _

@[simp] lemma audit_devices (event : AuditEvent) :
    (host.audit event).devices = host.devices := rfl

@[simp] lemma save_devices (name : String) (value : Value) :
    (host.save name value).devices = host.devices := rfl

@[simp] lemma setFailing_devices (failing : Failing) (on : Bool) :
    (host.setFailing failing on).devices = host.devices := by cases failing <;> rfl

end Host

/-! ## The machine -/

namespace Rig

variable {σ : Type} (rig : Rig σ)

@[simp] lemma acquireLock_devices : rig.acquireLock.host.devices = rig.host.devices := by
  unfold acquireLock
  split <;> rfl

@[simp] lemma releaseLock_devices : rig.releaseLock.host.devices = rig.host.devices := by
  unfold releaseLock
  split <;> rfl

@[simp] lemma cancelTimers_devices : rig.cancelTimers.host.devices = rig.host.devices := by
  simp [cancelTimers]

@[simp] lemma armPhaseTimer_devices : rig.armPhaseTimer.host.devices = rig.host.devices := by
  have harmed := rig.host.arm_devices 0 (.transitNextPhase rig.machine.current)
  unfold armPhaseTimer
  split <;> simp_all

@[simp] lemma arrive_devices (previous : State) :
    (rig.arrive previous).host.devices = rig.host.devices := by
  unfold arrive
  dsimp only
  split
  · simp
  · split <;> simp

@[simp] lemma enter_devices (policy : Policy) (next : State) :
    (rig.enter policy next).2.host.devices = rig.host.devices := by
  unfold enter
  dsimp only
  split
  · simp
  · rename_i delay target _
    have harmed := rig.cancelTimers.host.arm_devices delay (.transitNextState next)
    split <;> simp_all

@[simp] lemma block_devices : rig.block.host.devices = rig.host.devices := by
  simp [block]

@[simp] lemma enterOrBlock_devices (policy : Policy) (next : State) :
    (rig.enterOrBlock policy next).host.devices = rig.host.devices := by
  have hentered := rig.enter_devices policy next
  unfold enterOrBlock
  split <;> simp_all

lemma ask_devices (judge : Constraint σ) (question : Question) :
    (rig.ask judge question).2.host.devices = rig.host.devices := rfl

@[simp] lemma transitTo_devices (judge : Constraint σ) (policy : Policy) (next : State) :
    (rig.transitTo judge policy next).host.devices = rig.host.devices := by
  have hasked := rig.ask_devices judge (stateQuestion rig.machine next)
  unfold transitTo
  split
  · split <;> simp_all
  · simp

@[simp] lemma transit_devices (judge : Constraint σ) (policy : Policy) (next : State) :
    (rig.transit judge policy next).host.devices = rig.host.devices := by
  unfold transit
  dsimp only
  split <;> simp

@[simp] lemma enterPhase_devices (next : Nat) :
    (rig.enterPhase next).host.devices = rig.host.devices := by
  unfold enterPhase
  dsimp only
  split <;> simp

@[simp] lemma advancePhase_devices (judge : Constraint σ) :
    (rig.advancePhase judge).host.devices = rig.host.devices := by
  have hasked := rig.ask_devices judge (phaseQuestion rig.machine)
  unfold advancePhase
  dsimp only
  split <;> simp_all

@[simp] lemma wakeUp_devices (judge : Constraint σ) (policy : Policy) :
    (rig.wakeUp judge policy).host.devices = rig.host.devices := by
  unfold wakeUp
  dsimp only
  split <;> simp

@[simp] lemma retryIfBlocked_devices (policy : Policy) :
    (rig.retryIfBlocked policy).host.devices = rig.host.devices := by
  unfold retryIfBlocked
  split <;> simp

@[simp] lemma goDarkOrRetry_devices (policy : Policy) :
    (rig.goDarkOrRetry policy).host.devices = rig.host.devices := by
  unfold goDarkOrRetry
  split <;> simp

lemma handleEvent_devices (judge : Constraint σ) (policy : Policy) (message : Message) :
    (rig.handleEvent judge policy message).host.devices = rig.host.devices := by
  unfold handleEvent
  split
  · split_ifs <;> simp
  · simp
  · rfl

lemma onTimer_devices (judge : Constraint σ) (policy : Policy) (id : TimerId) (task : TimerTask) :
    (rig.onTimer judge policy id task).host.devices = rig.host.devices := by
  unfold onTimer
  split
  · dsimp only
    split
    · split <;> simp
    · rfl
  · split <;> simp
  · rfl
  · rfl

lemma endEvaluation_devices (policy : Policy) (passed : Bool) :
    (rig.endEvaluation policy passed).host.devices = rig.host.devices := by
  unfold endEvaluation
  dsimp only
  split
  · rfl
  · split <;> simp
  · split <;> simp

lemma init_devices : rig.init.host.devices = rig.host.devices := rig.cancelTimers_devices

lemma uninit_devices : rig.uninit.host.devices = rig.host.devices := by
  simp [uninit]

end Rig

/-! ## The exemption table -/

namespace Admission

variable (a : Admission)

lemma settle_devices (table : RecordTable) (reaped : List Revoked) :
    (a.settle table reaped).host.devices = a.host.devices := by
  rw [settle_frame (fun a => a.host.devices) (fun _ _ _ _ => by simp [notify]), settled]
  split <;> rfl

lemma revoke_devices (uid : Uid) (name : String) (mask : Mask) (force : Bool) :
    (a.revoke uid name mask force).host.devices = a.host.devices := by
  obtain ⟨reaped, table, -, hsettle⟩ := a.revoke_settles uid name mask force
  rw [hsettle, settle_devices]

lemma perform_devices (operation : Operation) :
    (a.perform operation).host.devices = a.host.devices := by
  rcases a.perform_cases operation with
    ⟨request, pid, mask, -, -, -, -, hperform⟩ | ⟨reaped, table, -, hperform⟩
  · have harmed : (a.armed request mask pid).host.devices = a.host.devices :=
      armRevokes_frame request mask Host.devices (fun _ _ _ => rfl) _ _
    rw [hperform, grantKinds_eq, grantSaved]
    split <;> split <;> simpa [notify, persist] using harmed
  · rw [hperform, settle_devices]

lemma recover_devices (running : Option Processes) :
    (a.recover running).host.devices = a.host.devices := by
  have harmed : ∀ (entries : List Entry) (record : Record) (host : Host),
      (entries.foldl (fun host entry => (host.arm (entry.timeLeft host.now).toNat
        (.revokeExpired record.uid record.name Mask.known)).2) host).devices = host.devices := by
    intro entries record
    induction entries with
    | nil => exact fun _ => rfl
    | cons entry entries ih => exact fun host => ih _
  have hadopted : ∀ (records : List (String × Record)) (a : Admission),
      (records.foldl (fun a entry => a.adopt entry.1 entry.2) a).host.devices =
        a.host.devices := by
    intro records
    induction records with
    | nil => exact fun _ => rfl
    | cons entry records ih =>
      exact fun a => (ih _).trans (harmed entry.2.entries entry.2 a.host)
  rcases a.recover_eq running with ⟨hsame, -⟩ | ⟨event, hrecover⟩
  · rw [hsame]
  · rw [hrecover]
    exact hadopted _ a

end Admission

/-! ## The engine -/

namespace Engine

variable (e : Engine)

lemma armDayNight_devices : e.armDayNight.host.devices = e.host.devices := by
  simp [armDayNight]

lemma keepHouse_devices (message : Message) :
    (e.keepHouse message).host.devices = e.host.devices := by
  unfold keepHouse
  split
  · split
    · exact e.toAdmission.revoke_devices _ _ _ _
    · rfl
  · split
    · exact e.armDayNight_devices
    · rfl

lemma deliver_devices (message : Message) :
    (e.deliver message).host.devices = e.host.devices := by
  cases hready : e.ready with
  | false => rw [deliver_of_not_ready hready]
  | true =>
    obtain ⟨probe, last, hdeliver⟩ := deliver_eq hready message
    rw [hdeliver, keepHouse_devices]
    exact Rig.handleEvent_devices _ _ _ _

lemma onDayNight_devices (id : TimerId) : (e.onDayNight id).host.devices = e.host.devices := by
  unfold onDayNight
  split
  · rfl
  · dsimp only
    split
    · rfl
    · rw [armDayNight_devices]
      split
      · rw [deliver_devices]
      · rfl

lemma handle_devices (task : Task) : (e.handle task).host.devices = e.host.devices := by
  cases task with
  | message body => exact e.deliver_devices body
  | timer id task =>
    cases task with
    | transitNextState | transitNextPhase =>
      unfold handle onTimer
      dsimp only
      split
      · rw [drive_eq, ← e.note_host (.stateTimer id)]
        exact Rig.onTimer_devices _ _ _ _ _
      · rfl
    | revokeExpired uid name mask => exact e.toAdmission.revoke_devices uid name mask false
    | dayNightSwitch => exact e.onDayNight_devices id
  | evaluationFinished passed =>
    unfold handle
    dsimp only
    split
    · rw [drive_eq, ← e.note_host (.stateEndEvaluation passed)]
      exact Rig.endEvaluation_devices _ _ _
    · rfl
  | snapshot => rfl

lemma handleNext_devices : (e.act .handleNext).host.devices = e.host.devices := by
  rcases e.act_handleNext with ⟨-, hsame⟩ | ⟨task, tasks, -, hnext⟩
  · rw [hsame]
  · rw [hnext, handle_devices]
    rfl

lemma submit_devices (task : Task) : (e.submit task).2.host.devices = e.host.devices :=
  e.host.post_devices task

lemma uninit_devices : e.uninit.host.devices = e.host.devices := by
  unfold uninit
  split
  · rfl
  · simp only [audit, drive_eq, note_host, Host.audit_devices, Host.cancel?_devices]
    exact Rig.uninit_devices _

lemma reload_devices (policy : Policy) : (e.reload policy).host.devices = e.host.devices := by
  unfold reload
  dsimp only
  split
  · rw [armDayNight_devices]
  · rfl

lemma init_devices (running : Option Processes) :
    (e.init running).2.host.devices = e.host.devices := by
  have hrisen : e.rise.2.host.devices = e.host.devices := by
    refine rise_induct (P := fun next => next.host.devices = e.host.devices) ?_ ?_ ?_ ?_ rfl
    · exact fun next call h => by rw [note_host, h]
    · exact fun next h => by rw [drive_eq, ← h]; exact Rig.init_devices _
    · exact fun next strategies listener h => h
    · exact fun next h => by rw [armDayNight_devices, h]
  rw [init_state]
  split
  · rfl
  · rcases hresult : e.rise with ⟨_ | _, risen⟩
    · rw [hresult] at hrisen
      exact hrisen
    · rw [hresult] at hrisen
      exact (risen.toAdmission.recover_devices running).trans hrisen

lemma onTable_devices {α : Type} (admitted : Except ServiceError Unit)
    {act : Admission → Except ServiceError α × Admission} (operation : Operation)
    (hact : (act e.toAdmission).2 = e.toAdmission.perform operation) :
    (e.onTable admitted act).2.host.devices = e.host.devices := by
  unfold onTable
  cases admitted with
  | error error => rfl
  | ok =>
    show (act e.toAdmission).2.host.devices = e.host.devices
    rw [hact, Admission.perform_devices]

lemma handleSome_devices (count : Nat) :
    (handleSome count e).2.host.devices = e.host.devices := by
  induction count generalizing e with
  | zero => rfl
  | succ count ih =>
    have hnext := e.handleNext_devices
    rw [handleSome]
    rw [act] at hnext
    cases hhandled : e.handleNext with
    | none => rfl
    | some handled =>
      rw [hhandled] at hnext
      exact (ih handled.2).trans hnext

lemma awaitSnapshot_devices : e.awaitSnapshot.2.2.host.devices = e.host.devices := by
  unfold awaitSnapshot requestSnapshot
  cases e.ensureReady with
  | error error => rfl
  | ok =>
    have hasked := e.submit_devices .snapshot
    dsimp only
    rcases hsubmit : e.submit .snapshot with ⟨_ | _, asked⟩
    all_goals rw [hsubmit] at hasked
    · exact hasked
    · exact (asked.handleSome_devices _).trans hasked

/-- A report is put down whether or not it can be told. -/
lemma recordDevice_devices (number : Int) (enabled : Bool) :
    (e.recordDevice number enabled).2.host.devices =
      (e.host.devices.report number enabled).2 := by
  unfold recordDevice
  dsimp only
  split
  · rw [submit_devices]
  · rfl

/-! ## Reports -/

namespace Act

/-- What an engine is told of an activity. -/
def observes : Act → Option (DeviceKind × Bool)
  | reportDevice _ number enabled => (DeviceKind.ofIndex? number).map (·, enabled)
  | receive event => event.deviceState
  | _ => none

end Act

/-- From one engine to the other nothing has changed in what is known of activities, unless it was
told. -/
def Learns (told : Option (DeviceKind × Bool)) (e after : Engine) : Prop :=
  after.host.devices = e.host.devices ∨ ∃ kind enabled, told = some (kind, enabled) ∧
    after.host.devices = e.host.devices.set kind enabled

lemma learns_recordDevice (number : Int) (enabled : Bool) :
    Learns ((DeviceKind.ofIndex? number).map (·, enabled)) e (e.recordDevice number enabled).2 := by
  have hdevices := e.recordDevice_devices number enabled
  unfold DeviceStates.report at hdevices
  split at hdevices
  · exact Or.inl hdevices
  · rename_i kind hkind
    rw [hkind]
    exact Or.inr ⟨kind, enabled, rfl, hdevices⟩

/-- Posts the message that an observation is delivered as, if there is one. -/
def passOn (event : SystemEvent) : Except ServiceError Unit × Engine :=
  match event.message with
  | some message => e.submit (.message message)
  | none => (.ok (), e)

/-- An observation is put down before it is passed on, and is not passed on if it was news that
could not be told. -/
lemma receive_eq (event : SystemEvent) : e.receive event =
    match e.ensureReady, event.deviceState with
    | .error error, _ => (.error error, e)
    | .ok _, none => e.passOn event
    | .ok _, some (kind, active) =>
      match e.recordDevice kind.index active with
      | (.error error, recorded) => (.error error, recorded)
      | (.ok _, recorded) => recorded.passOn event := by
  unfold receive passOn
  cases e.ensureReady with
  | error error => rfl
  | ok =>
    rcases event.deviceState with _ | ⟨kind, active⟩
    · cases event.message <;> rfl
    · dsimp only
      rcases e.recordDevice kind.index active with ⟨_ | _, recorded⟩
      · rfl
      · cases event.message <;> rfl

lemma passOn_devices (event : SystemEvent) :
    (e.passOn event).2.host.devices = e.host.devices := by
  unfold passOn
  split
  · exact e.submit_devices _
  · rfl

lemma learns_receive (event : SystemEvent) :
    Learns event.deviceState e (e.receive event).2 := by
  rw [receive_eq]
  split
  · exact Or.inl rfl
  · exact Or.inl (e.passOn_devices event)
  · rename_i kind active _ hstate
    have hlearns := e.learns_recordDevice kind.index active
    rw [DeviceKind.ofIndex?_index, Option.map_some] at hlearns
    rw [hstate]
    split
    · rename_i hrecorded
      rwa [hrecorded] at hlearns
    · rename_i recorded hrecorded
      rw [hrecorded] at hlearns
      unfold Learns
      rw [passOn_devices]
      exact hlearns

lemma learns_act (act : Act) : Learns act.observes e (e.act act) := by
  cases act with
  | reportDevice caller number enabled =>
    simp only [Engine.act, reportDevice, Act.observes]
    split
    · exact Or.inl rfl
    · exact e.learns_recordDevice number enabled
  | receive event => exact e.learns_receive event
  | uninit => exact Or.inl e.uninit_devices
  | reload policy => exact Or.inl (e.reload_devices policy)
  | operate operation => exact Or.inl (e.toAdmission.perform_devices operation)
  | apply caller request =>
    exact Or.inl (e.onTable_devices _ (.grant (narrowed caller request) caller.pid) rfl)
  | unapply caller request =>
    exact Or.inl (e.onTable_devices _ (.unapply (narrowed caller request)) rfl)
  | allowList caller mask code => exact Or.inl (e.onTable_devices _ (.allowList mask code) rfl)
  | restrictSet mask strategy code =>
    exact Or.inl (e.onTable_devices _ (.restrictSet mask strategy code) rfl)
  | submit task => exact Or.inl (e.submit_devices task)
  | dispatch message =>
    simp only [Engine.act, dispatch]
    split
    · exact Or.inl rfl
    · exact Or.inl (e.submit_devices _)
  | report caller message =>
    simp only [Engine.act, report]
    split
    · exact Or.inl rfl
    · exact Or.inl (e.submit_devices _)
  | handle task => exact Or.inl (e.handle_devices task)
  | handleNext => exact Or.inl e.handleNext_devices
  | awaitSnapshot => exact Or.inl e.awaitSnapshot_devices

end Engine

/-! ## Runs -/

namespace EngineMove

/-- What an engine is told of an activity by a move. -/
def observes : EngineMove → Option (DeviceKind × Bool)
  | .act asked => asked.observes
  | .init _ | .advance _ | .heed _ | .setWall _ | .fail _ _ => none

end EngineMove

namespace EngineRun

lemma learns_after (run : EngineRun) (move : EngineMove) :
    Engine.Learns move.observes run.engine (run.after move).engine := by
  cases move with
  | act act => exact run.engine.learns_act act
  | init running => exact Or.inl (run.engine.init_devices running)
  | advance millis => exact Or.inl rfl
  | heed timer => exact Or.inl (run.engine.handle_devices _)
  | setWall moment => exact Or.inl rfl
  | fail failing on => exact Or.inl (run.engine.host.setFailing_devices failing on)

/-- What is known of an activity stays, unless the opposite is told. -/
lemma get_after (run : EngineRun) {move : EngineMove} {kind : DeviceKind}
    (hmove : move.observes ≠ some (kind, !run.engine.host.devices.get kind)) :
    (run.after move).engine.host.devices.get kind = run.engine.host.devices.get kind := by
  rcases run.learns_after move with hsame | ⟨other, enabled, htold, hset⟩
  · rw [hsame]
  · rw [hset, DeviceStates.get_set]
    split
    · rename_i heq
      subst heq
      rw [htold] at hmove
      by_contra hchanged
      exact hmove (by rw [Bool.eq_not.2 hchanged])
    · rfl

lemma get_afterAll {run : EngineRun} {moves : List EngineMove} {kind : DeviceKind}
    (hmoves : ∀ move ∈ moves, move.observes ≠ some (kind, !run.engine.host.devices.get kind)) :
    (run.afterAll moves).engine.host.devices.get kind = run.engine.host.devices.get kind := by
  induction moves generalizing run with
  | nil => rfl
  | cons move moves ih =>
    have hfirst := run.get_after (hmoves move List.mem_cons_self)
    have hlater : ((run.after move).afterAll moves).engine.host.devices.get kind =
        (run.after move).engine.host.devices.get kind := by
      refine ih (fun later hmem => ?_)
      rw [hfirst]
      exact hmoves later (List.mem_cons_of_mem _ hmem)
    exact hlater.trans hfirst

end EngineRun

end DeviceStandby
