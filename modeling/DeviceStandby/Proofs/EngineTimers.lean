import DeviceStandby.Proofs.EngineMachine
import DeviceStandby.Proofs.SoleTimers

/-!
# Which timers an engine touches

Work on the exemption table arms timers that revoke exemptions; it leaves all others alone, and so
the wake lock (`Host.Extends`).  Everything that an engine is asked to do beside its machine comes
to such work (`Engine.aside_act`).

The state machine cancels timers whose numbers it remembers, and arms timers of its own
(`Rig.Minds`).

Handling a task is made of a few pieces: a move of the machine, changes of the roles, a revocation,
and the replacement of the timer for the change between day and night.  What each piece keeps, the
whole keeps (`Engine.handle_induct`).  An engine that is not ready heeds no task but the timers that
revoke exemptions (`Engine.handle_of_not_ready`).
-/

namespace DeviceStandby

/-! ## Timers that revoke exemptions -/

lemma TimerTask.ofMachine_of_isRevoke {task : TimerTask} (h : task.isRevoke = true) :
    task.ofMachine = false := by
  cases task with
  | revokeExpired => rfl
  | transitNextState | transitNextPhase | dayNightSwitch => cases h

/-- From one host to the other timers that revoke exemptions were armed, under new numbers; all
other timers and the wake lock were left alone. -/
structure Host.Extends (before after : Host) : Prop where
  wakeLock : after.wakeLock = before.wakeLock
  failing : after.timers.failing = before.timers.failing
  numbers : before.timers.nextId ≤ after.timers.nextId
  ordered : before.timers.Ordered → after.timers.Ordered
  pending : ∃ more, after.timers.pending = before.timers.pending ++ more ∧
    ∀ timer ∈ more, timer.task.isRevoke = true ∧ before.timers.nextId ≤ timer.id

namespace Host.Extends

variable {host next last : Host}

lemma of_same (htimers : next.timers = host.timers) (hlock : next.wakeLock = host.wakeLock) :
    host.Extends next := by
  refine ⟨hlock, by rw [htimers], Nat.le_of_eq (by rw [htimers]), fun h => by rwa [htimers], [],
    ?_, List.forall_mem_nil _⟩
  rw [htimers, List.append_nil]

lemma refl (host : Host) : host.Extends host := of_same rfl rfl

lemma trans (first : host.Extends next) (second : next.Extends last) : host.Extends last := by
  refine ⟨second.wakeLock.trans first.wakeLock, second.failing.trans first.failing,
    Nat.le_trans first.numbers second.numbers, fun h => second.ordered (first.ordered h), ?_⟩
  obtain ⟨more, hmore, hrevokes⟩ := first.pending
  obtain ⟨later, hlater, hothers⟩ := second.pending
  refine ⟨more ++ later, by rw [hlater, hmore, List.append_assoc], fun timer hmem => ?_⟩
  rcases List.mem_append.1 hmem with hmem | hmem
  · exact hrevokes timer hmem
  · obtain ⟨hrevoke, hnumber⟩ := hothers timer hmem
    exact ⟨hrevoke, Nat.le_trans first.numbers hnumber⟩

/-- A source that works arms one more timer, and one that fails none. -/
lemma arm (host : Host) (delay : Nat) {task : TimerTask} (htask : task.isRevoke = true) :
    host.Extends (host.arm delay task).2 := by
  cases hworks : host.timers.failing with
  | true =>
    rw [host.arm_of_failing delay task hworks]
    exact refl _
  | false =>
    have hworked : Host.Worked (fun _ => True) host [] (host.arm delay task).2 := .arm host trivial
    refine ⟨host.arm_wakeLock delay task, ?_, hworked.numbers, fun h => h.arm delay task,
      [⟨host.timers.nextId, host.now + wrap64 delay, task⟩], ?_, ?_⟩
    · simp [TimerSource.arm, TimerSource.armAt, hworks]
    · exact (host.arm_of_works delay task hworks).2
    · exact List.forall_mem_singleton.2 ⟨htask, Nat.le_refl _⟩

lemma foldl {α : Type} {act : Host → α → Host}
    (hact : ∀ (host : Host) (x : α), host.Extends (act host x)) (list : List α) (host : Host) :
    host.Extends (list.foldl act host) := by
  induction list generalizing host with
  | nil => exact refl _
  | cons x list ih => exact (hact host x).trans (ih _)

lemma mem (h : host.Extends next) {timer : ArmedTimer} (hmem : timer ∈ host.timers.pending) :
    timer ∈ next.timers.pending := by
  obtain ⟨more, hmore, -⟩ := h.pending
  rw [hmore]
  exact List.mem_append_left _ hmem

/-- What is armed then was armed before, or it revokes exemptions and has a new number. -/
lemma mem_or (h : host.Extends next) {timer : ArmedTimer} (hmem : timer ∈ next.timers.pending) :
    timer ∈ host.timers.pending ∨ timer.task.isRevoke = true ∧ host.timers.nextId ≤ timer.id := by
  obtain ⟨more, hmore, hrevokes⟩ := h.pending
  rw [hmore] at hmem
  exact (List.mem_append.1 hmem).imp_right (hrevokes timer)

end Host.Extends

/-! ## Work on the exemption table -/

namespace Admission

variable (a : Admission)

lemma extends_settle (table : RecordTable) (reaped : List Revoked) :
    a.host.Extends (a.settle table reaped).host := by
  refine .of_same (settle_timers table reaped) ?_
  rw [settle_frame (fun a => a.host.wakeLock) (fun _ _ _ _ => by simp [notify]), settled]
  split <;> simp [persist]

lemma extends_revoke (uid : Uid) (name : String) (mask : Mask) (force : Bool) :
    a.host.Extends (a.revoke uid name mask force).host := by
  obtain ⟨reaped, table, -, hsettle⟩ := a.revoke_settles uid name mask force
  rw [hsettle]
  exact a.extends_settle table reaped

lemma extends_perform (operation : Operation) : a.host.Extends (a.perform operation).host := by
  rcases a.perform_cases operation with
    ⟨request, pid, mask, -, -, -, -, hperform⟩ | ⟨reaped, table, -, hperform⟩
  · have harmed : a.host.Extends (a.armed request mask pid).host :=
      .foldl (fun host _ => .arm host _ rfl) _ _
    rw [hperform]
    refine harmed.trans (.of_same grantKinds_timers ?_)
    rw [grantKinds_eq, grantSaved]
    split <;> split <;> simp [notify, persist]
  · rw [hperform]
    exact a.extends_settle table reaped

lemma extends_recover (running : Option Processes) :
    a.host.Extends (a.recover running).host := by
  have hadopted : ∀ (records : List (String × Record)) (a : Admission),
      a.host.Extends (records.foldl (fun a entry => a.adopt entry.1 entry.2) a).host := by
    intro records
    induction records with
    | nil => exact fun a => .refl _
    | cons entry records ih =>
      intro a
      have harmed : a.host.Extends (a.adopt entry.1 entry.2).host :=
        .foldl (fun host _ => .arm host _ rfl) _ _
      exact harmed.trans (ih _)
  rcases a.recover_eq running with ⟨hsame, -⟩ | ⟨event, hrecover⟩
  · rw [hsame]
    exact .refl _
  · rw [hrecover]
    exact (hadopted _ a).trans (.of_same rfl rfl)

end Admission

/-! ## Work beside the machine -/

namespace Engine

/-- The engine has worked on its exemption table only. -/
def Aside (e next : Engine) : Prop := ∃ a, next = e.withAdmission a ∧ e.host.Extends a.host

namespace Aside

variable {e next last : Engine}

lemma refl (e : Engine) : e.Aside e := ⟨e.toAdmission, rfl, .refl _⟩

lemma trans (first : e.Aside next) (second : next.Aside last) : e.Aside last := by
  obtain ⟨a, rfl, hfirst⟩ := first
  obtain ⟨b, rfl, hsecond⟩ := second
  exact ⟨b, rfl, hfirst.trans hsecond⟩

lemma onTable {α : Type} (e : Engine) (admitted : Except ServiceError Unit)
    {act : Admission → Except ServiceError α × Admission} (operation : Operation)
    (hact : (act e.toAdmission).2 = e.toAdmission.perform operation) :
    e.Aside (e.onTable admitted act).2 := by
  unfold Engine.onTable
  cases admitted with
  | error error => exact .refl e
  | ok =>
    refine ⟨(act e.toAdmission).2, rfl, ?_⟩
    rw [hact]
    exact e.toAdmission.extends_perform operation

lemma submit (e : Engine) (task : Task) : e.Aside (e.submit task).2 := by
  refine ⟨{ e.toAdmission with host := (e.host.post task).2 }, rfl, ?_⟩
  exact .of_same (e.host.post_timers task) (e.host.post_wakeLock task)

lemma recordDevice (e : Engine) (kind : Int) (enabled : Bool) :
    e.Aside (e.recordDevice kind enabled).2 := by
  have hrecorded : e.Aside { e with
      host := { e.host with devices := (e.host.devices.report kind enabled).2 } } :=
    ⟨{ e.toAdmission with
      host := { e.host with devices := (e.host.devices.report kind enabled).2 } }, rfl,
      .of_same rfl rfl⟩
  unfold Engine.recordDevice
  dsimp only
  split
  · exact hrecorded.trans (submit _ _)
  · exact hrecorded

lemma receive (e : Engine) (event : SystemEvent) : e.Aside (e.receive event).2 := by
  unfold Engine.receive
  cases e.ensureReady with
  | error error => exact .refl e
  | ok =>
    rcases event.deviceState with _ | ⟨kind, active⟩
    · cases event.message with
      | none => exact .refl e
      | some message => exact submit e _
    · have hrecorded := recordDevice e kind.index active
      dsimp only
      rcases h : e.recordDevice kind.index active with ⟨_ | _, recorded⟩
      all_goals rw [h] at hrecorded
      · exact hrecorded
      · cases event.message with
        | none => exact hrecorded
        | some message => exact hrecorded.trans (submit recorded _)

end Aside

/-- What the machine has no part in is work on the exemption table, its host included. -/
theorem aside_act (e : Engine) {act : Act} (hact : act.IsAside) : e.Aside (e.act act) := by
  cases act with
  | uninit | reload | handle | handleNext | awaitSnapshot => exact hact.elim
  | operate operation => exact ⟨_, rfl, e.toAdmission.extends_perform operation⟩
  | apply caller request => exact .onTable e _ (.grant (narrowed caller request) caller.pid) rfl
  | unapply caller request => exact .onTable e _ (.unapply (narrowed caller request)) rfl
  | allowList caller mask code => exact .onTable e _ (.allowList mask code) rfl
  | restrictSet mask strategy code => exact .onTable e _ (.restrictSet mask strategy code) rfl
  | submit task => exact .submit e task
  | dispatch message =>
    simp only [Engine.act, dispatch]
    split
    · exact .refl e
    · exact .submit e _
  | report caller message =>
    simp only [Engine.act, report]
    split
    · exact .refl e
    · exact .submit e _
  | reportDevice caller kind enabled =>
    simp only [Engine.act, reportDevice]
    split
    · exact .refl e
    · exact .recordDevice e kind enabled
  | receive event => exact .receive e event

end Engine

/-! ## Moves of the machine -/

/-- The machine does not remember the number. -/
def Machine.Ignores (machine : Machine) (id : TimerId) : Prop :=
  machine.stateTimer ≠ some id ∧ machine.phaseTimer ≠ some id

/-- Whether the move is one of the machine, and not something that happens to its host. -/
def MachineMove.IsOwn {σ : Type} : MachineMove σ → Prop
  | .host _ => False
  | _ => True

namespace Rig

variable {σ : Type} {judge : Constraint σ} {policy : Policy} {rig after : Rig σ}
  {timer : ArmedTimer} {move : MachineMove σ}

lemma kept_arrive (previous : State) (hmem : timer ∈ rig.host.timers.pending) :
    timer ∈ (rig.arrive previous).host.timers.pending := by
  refine (settled_arrive previous rig).kept timer ?_
  rw [told_timers]
  exact hmem

/-- Entering a state cancels the timers that are remembered and no others. -/
lemma kept_enter (policy : Policy) (next : State)
    (hmem : timer ∈ rig.cancelTimers.host.timers.pending) :
    timer ∈ (rig.enter policy next).2.host.timers.pending := by
  unfold enter
  dsimp only
  split
  · exact kept_arrive _ hmem
  · rename_i delay target hplan
    cases hworks : rig.cancelTimers.host.timers.failing with
    | true =>
      rw [Host.arm_of_failing _ _ _ hworks]
      exact hmem
    | false =>
      have hpending :=
        (rig.cancelTimers.host.arm_of_works delay (.transitNextState next) hworks).2
      rcases harm : rig.cancelTimers.host.arm delay (.transitNextState next) with
        ⟨_ | number, host⟩
      all_goals
        rw [harm] at hpending
        have hkept : timer ∈ host.timers.pending := by
          rw [hpending]
          exact List.mem_append_left _ hmem
      · exact hkept
      · exact kept_arrive _ hkept

lemma kept_enterOrBlock (policy : Policy) (next : State)
    (hmem : timer ∈ rig.cancelTimers.host.timers.pending) :
    timer ∈ (rig.enterOrBlock policy next).host.timers.pending := by
  have hkept := kept_enter policy next hmem
  unfold enterOrBlock
  rcases h : rig.enter policy next with ⟨_ | _, entered⟩
  all_goals rw [h] at hkept
  · rw [block_timers]
    exact hkept
  · exact hkept

lemma kept_cancelTimers (hignores : rig.machine.Ignores timer.id)
    (hmem : timer ∈ rig.host.timers.pending) :
    timer ∈ rig.cancelTimers.host.timers.pending :=
  rig.mem_cancelTimers.2 ⟨hmem, hignores⟩

/-- What a step prepares is no matter to the timers that the machine ignores. -/
lemma kept_ready {prepared : Rig σ} {constraint : σ}
    (hready : prepared = rig.cleared constraint ∨ prepared = (rig.cleared constraint).acquireLock)
    (hignores : rig.machine.Ignores timer.id) (hmem : timer ∈ rig.host.timers.pending) :
    timer ∈ prepared.host.timers.pending ∧ prepared.machine.Ignores timer.id := by
  obtain ⟨hmachine, htimers, -⟩ := ready_frame hready
  refine ⟨by rw [htimers]; exact hmem, ?_, ?_⟩
  · rw [hmachine]
    exact fun hid => by cases hid
  · rw [hmachine]
    exact hignores.2

/-- A timer that the machine does not remember stays armed in every step. -/
lemma Step.kept {delivery : Delivery} (hstep : Step policy rig delivery after)
    (hignores : rig.machine.Ignores timer.id) (hmem : timer ∈ rig.host.timers.pending) :
    timer ∈ after.host.timers.pending := by
  cases hstep with
  | rest => exact hmem
  | wake constraint => exact kept_enterOrBlock policy .working (kept_cancelTimers hignores hmem)
  | dark idle => exact kept_enterOrBlock policy .dark (kept_cancelTimers hignores hmem)
  | retry blocked => exact kept_enter policy _ (kept_cancelTimers hignores hmem)
  | depart constraint ready leads =>
    obtain ⟨hmem, hignores⟩ := kept_ready ready hignores hmem
    exact kept_enterOrBlock policy _ (kept_cancelTimers hignores hmem)
  | refuse constraint ready leads asked =>
    rw [block_timers]
    exact (kept_ready ready hignores hmem).1
  | await constraint ready leads asked unblocked =>
    exact (kept_ready (Or.inr ready) hignores hmem).1
  | phase constraint ahead =>
    refine (settled_enterPhase _ _).kept timer ?_
    rw [phased, Host.announce_timers]
    exact hmem
  | awaitPhase constraint ahead => exact hmem
  | endPhases constraint ahead =>
    rw [releaseLock_timers]
    exact hmem

lemma kept_moved (hsound : rig.machine.Sound) (hown : move.IsOwn)
    (hignores : rig.machine.Ignores timer.id) (hmem : timer ∈ rig.host.timers.pending) :
    timer ∈ (rig.moved judge policy move).host.timers.pending := by
  cases move with
  | handle message => exact (step_handleEvent judge policy message rig).kept hignores hmem
  | deliver id task => exact (step_onTimer judge policy hsound id task).kept hignores hmem
  | answer passed => exact (step_endEvaluation policy hsound passed).kept hignores hmem
  | init => exact kept_cancelTimers hignores hmem
  | uninit =>
    unfold Rig.moved uninit
    dsimp only
    rw [releaseLock_timers]
    exact kept_cancelTimers hignores hmem
  | refusePhase =>
    unfold Rig.moved refusePhase
    dsimp only
    split
    · exact hmem
    · rename_i id hid
      have hne : timer.id ≠ id := fun heq => hignores.2 (by rw [hid, heq])
      rw [releaseLock_timers]
      exact List.mem_filter.2 ⟨hmem, by simp [hne]⟩
  | host => exact hown.elim
  | reload | think => exact hmem

lemma quiet_refusePhase (rig : Rig σ) : Quiet rig rig.refusePhase := by
  unfold refusePhase
  split
  · exact .refl rig
  · rename_i id hid
    refine .trans ?_ (quiet_releaseLock _)
    refine .of_host (fun _ => ?_) (fun _ hstate => hstate) (fun _ hphase => by cases hphase)
    refine ⟨⟨rfl, rfl, Nat.le_refl _, ?_, List.forall_mem_nil _⟩, rfl⟩
    rw [List.append_nil]
    show (rig.host.timers.pending.filter _).filter _ = rig.host.timers.pending.filter _
    rw [List.filter_filter]
    refine List.filter_congr (fun timer _ => ?_)
    cases htask : timer.task <;> simp [TimerTask.isRevoke]

lemma quiet_moved (rig : Rig σ) (hown : move.IsOwn) :
    Quiet rig (rig.moved judge policy move) := by
  cases move with
  | handle message => exact quiet_handleEvent rig judge policy message
  | deliver id task => exact quiet_onTimer rig judge policy id task
  | answer passed => exact quiet_endEvaluation rig policy passed
  | init => exact quiet_init rig
  | uninit => exact quiet_uninit rig
  | refusePhase => exact quiet_refusePhase rig
  | host => exact hown.elim
  | reload | think => exact .of_same rfl rfl rfl rfl

/-- The machine arms timers of its own only. -/
lemma worked_moved (hsound : rig.machine.Sound) (hown : move.IsOwn) : ∃ more,
    Host.Worked (fun timer => timer.task.ofMachine = true) rig.host more
      (rig.moved judge policy move).host := by
  cases move with
  | handle message =>
    obtain ⟨more, htells⟩ := (step_handleEvent judge policy message rig).tells
    exact ⟨more, htells.worked⟩
  | deliver id task =>
    obtain ⟨more, htells⟩ := (step_onTimer judge policy hsound id task).tells
    exact ⟨more, htells.worked⟩
  | answer passed =>
    obtain ⟨more, htells⟩ := (step_endEvaluation policy hsound passed).tells
    exact ⟨more, htells.worked⟩
  | init => exact ⟨[], worked_init _ rig⟩
  | uninit => exact ⟨[], worked_uninit _ rig⟩
  | refusePhase => exact ⟨[], worked_refusePhase _ rig⟩
  | host => exact hown.elim
  | reload | think => exact ⟨[], .refl rig.host⟩

/-- The machine remembers its timers still if others are armed, or some were cancelled. -/
lemma Owns.others (h : rig.Owns) (hmachine : after.machine = rig.machine)
    (hpending : ∀ timer ∈ after.host.timers.pending,
      timer ∈ rig.host.timers.pending ∨ timer.task.ofMachine = false) : after.Owns := by
  intro timer hmem
  rw [hmachine]
  rcases hpending timer hmem with hold | hforeign
  · exact h timer hold
  · refine ⟨fun source htask => ?_, fun state htask => ?_⟩ <;>
      rw [htask] at hforeign <;> cases hforeign

end Rig

/-! ## Handling a task -/

namespace Engine

variable {e : Engine}

/-- The machine of the engine with what it acts on. -/
def rig (e : Engine) : Rig Probe := ⟨e.machine, e.host, e.probe⟩

/-- The engine after a move of its machine. -/
def moved (e : Engine) (move : MachineMove Probe) : Engine :=
  e.drive (fun rig => rig.moved e.plugin.constraint e.policy move)

/-- A timer for the change between day and night that is not remembered is of no effect. -/
lemma handle_dayNight_of_ne {id : TimerId} (h : e.dayNightTimer ≠ some id) :
    e.handle (.timer id .dayNightSwitch) = e := if_pos h

/-- If the engine is ready, the timer that it remembers is forgotten when it is delivered, and armed
anew after some roles have heard of it. -/
lemma handle_dayNight (hready : e.ready = true) {id : TimerId} (hid : e.dayNightTimer = some id) :
    ∃ listener probe strategies, e.handle (.timer id .dayNightSwitch) =
      ({ e with dayNightTimer := none, listener, probe, strategies } : Engine).armDayNight := by
  show ∃ listener probe strategies, e.onDayNight id = _
  unfold onDayNight
  rw [if_neg (not_not.2 hid)]
  dsimp only
  rw [if_neg (by rw [hready]; exact Bool.false_ne_true)]
  split
  · have hevent : (Message.conditionChanged e.toAdmission.condition).kind ≠ .commonEvent := by
      simp [Message.conditionChanged, Message.of]
    have hdevice :
        (Message.conditionChanged e.toAdmission.condition).kind ≠ .deviceStateChanged := by
      simp [Message.conditionChanged, Message.of]
    obtain ⟨listener, probe, strategies, hdeliver, -⟩ :=
      deliver_idle ({ e with dayNightTimer := none } : Engine) hevent hdevice
    rw [hdeliver]
    exact ⟨listener, probe, strategies, rfl⟩
  · exact ⟨e.listener, e.probe, e.strategies, rfl⟩

/-- If the engine is ready, what holds of it and is kept by the pieces that handling a task is made
of, holds when the task was handled. -/
theorem handle_induct {P : Engine → Prop} (hready : e.ready = true) (task : Task) (h : P e)
    (hmachine : ∀ probe, P (({ e with probe } : Engine).moved task.move))
    (hroles : ∀ (next : Engine) listener probe strategies, P next →
      P { next with listener, probe, strategies })
    (hrevoke : ∀ (next : Engine) uid name mask force, P next →
      P (next.withAdmission (next.toAdmission.revoke uid name mask force)))
    (harm : ∀ next : Engine, P next → P next.armDayNight)
    (hturn : ∀ id listener probe strategies, task = .timer id .dayNightSwitch →
      e.dayNightTimer = some id → P (({ e with
        dayNightTimer := none, listener, probe, strategies } : Engine).armDayNight)) :
    P (e.handle task) := by
  have hkeep : ∀ (next : Engine) (message : Message), P next → P (next.keepHouse message) := by
    intro next message hnext
    unfold keepHouse
    split
    · split
      · exact hrevoke next _ _ _ _ hnext
      · exact hnext
    · split
      · exact harm next hnext
      · exact hnext
  cases task with
  | message body =>
    obtain ⟨probe, last, hdeliver⟩ := deliver_eq hready body
    show P (e.deliver body)
    rw [hdeliver]
    exact hkeep _ body (hroles _ e.listener.hear last _ (hmachine probe))
  | timer id task =>
    have hdriven : ∀ task : TimerTask,
        (∀ probe, P (({ e with probe } : Engine).moved (.deliver id task))) →
        P (if e.ready then
          (e.note (.stateTimer id)).drive (Rig.onTimer e.plugin.constraint e.policy id task)
        else e) := by
      intro task hmoved
      obtain ⟨probe, hprobe⟩ := note_eq e (.stateTimer id)
      rw [if_pos hready, hprobe]
      exact hmoved probe
    cases task with
    | transitNextState source => exact hdriven _ hmachine
    | transitNextPhase state => exact hdriven _ hmachine
    | revokeExpired uid name mask => exact hrevoke e uid name mask false h
    | dayNightSwitch =>
      by_cases hid : e.dayNightTimer = some id
      · obtain ⟨listener, probe, strategies, hturned⟩ := handle_dayNight hready hid
        rw [hturned]
        exact hturn id listener probe strategies rfl hid
      · rw [handle_dayNight_of_ne hid]
        exact h
  | evaluationFinished passed =>
    obtain ⟨probe, hprobe⟩ := note_eq e (.stateEndEvaluation passed)
    unfold handle
    dsimp only
    rw [if_pos hready, hprobe]
    exact hmachine probe
  | snapshot => exact h

/-- An engine that is not ready drops every task, but that a timer which revokes exemptions revokes
them, and a timer for the change between day and night is forgotten if it is remembered. -/
theorem handle_of_not_ready (hready : e.ready = false) (task : Task) : e.handle task =
    match task with
    | .timer _ (.revokeExpired uid name mask) =>
      e.withAdmission (e.toAdmission.revoke uid name mask false)
    | .timer id .dayNightSwitch =>
      if e.dayNightTimer = some id then { e with dayNightTimer := none } else e
    | _ => e := by
  have hnot : ¬ e.ready = true := by rw [hready]; exact Bool.false_ne_true
  cases task with
  | message body => exact deliver_of_not_ready hready body
  | timer id task =>
    cases task with
    | transitNextState | transitNextPhase => exact if_neg hnot
    | revokeExpired uid name mask => rfl
    | dayNightSwitch =>
      show e.onDayNight id = _
      unfold onDayNight
      by_cases hid : e.dayNightTimer = some id
      · rw [if_neg (not_not.2 hid)]
        dsimp only
        rw [if_pos hid]
        exact if_pos (by rw [hready]; rfl)
      · rw [if_pos hid]
        exact (if_neg hid).symm
  | evaluationFinished passed => exact if_neg hnot
  | snapshot => rfl

/-! ## The timer for the change between day and night -/

/-- The timer that was remembered is cancelled; and unless timers cannot be armed, a new one is armed
and remembered. -/
lemma armDayNight_cases (e : Engine) :
    (e.host.timers.failing = true ∧ e.armDayNight.dayNightTimer = none ∧
      e.armDayNight.host.timers.pending = (e.host.cancel? e.dayNightTimer).timers.pending) ∨
    (e.host.timers.failing = false ∧
      e.armDayNight.dayNightTimer = some e.host.timers.nextId ∧
      e.armDayNight.host.timers.pending =
        (e.host.cancel? e.dayNightTimer).timers.pending ++
          [⟨e.host.timers.nextId, e.host.now +
            wrap64 (e.policy.night.untilNextEdge e.host.wall.secondOfDay * 1000 : Nat),
            .dayNightSwitch⟩]) := by
  have hnext : (e.host.cancel? e.dayNightTimer).timers.nextId = e.host.timers.nextId := by
    cases e.dayNightTimer <;> rfl
  have hnow : (e.host.cancel? e.dayNightTimer).now = e.host.now := by
    cases e.dayNightTimer <;> rfl
  have hfailing := e.host.cancel?_failing e.dayNightTimer
  unfold armDayNight
  dsimp only
  rw [Host.cancel?_wall]
  generalize e.policy.night.untilNextEdge _ * 1000 = delay
  cases hworks : e.host.timers.failing with
  | true =>
    rw [Host.arm_of_failing _ _ _ (hfailing.trans hworks)]
    exact Or.inl ⟨rfl, rfl, rfl⟩
  | false =>
    obtain ⟨hid, hpending⟩ := (e.host.cancel? e.dayNightTimer).arm_of_works delay .dayNightSwitch
      (hfailing.trans hworks)
    rw [hnext] at hid hpending
    rw [hnow] at hpending
    exact Or.inr ⟨rfl, hid, hpending⟩

end Engine

end DeviceStandby
