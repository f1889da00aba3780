import DeviceStandby.Proofs.EngineMachine
import DeviceStandby.Proofs.Journey

/-!
# No nap and no sleep while an activity goes on

A constraint that minds the activities (`Constraint.Minds`) answers at once, and vetoes a change of
state while one goes on.  It is asked before nap and sleep are entered from another state, and what
the state of a machine leads to is always another state, so the answer is never given away.  There
are two ways into a state that do not ask: a blocked machine enters its own state once more, and a
late answer lets a state be entered that was asked about before.  The first is no change of state,
and there are no late answers (`Rig.Spares`).

The default plug-in has such a constraint, and an engine keeps its plug-in for good.
-/

namespace DeviceStandby

/-! ## The constraint -/

lemma DeviceStates.anyActive_eq_none {states : DeviceStates} :
    states.anyActive = none ↔ ∀ kind, states.get kind = false := by
  unfold anyActive
  rw [List.find?_eq_none]
  constructor
  · intro h kind
    have hmem : kind ∈ DeviceKind.all := by cases kind <;> decide
    exact Bool.eq_false_iff.2 (h kind hmem)
  · exact fun h kind _ => Bool.eq_false_iff.1 (h kind)

/-- Either no activity stands against the change, or it is vetoed. -/
lemma deviceVerdict_cases (question : Question) (devices : DeviceStates) :
    (deviceVerdict question devices = .pass ∧
      (question.currentState ≠ question.nextState → ∀ kind, devices.get kind = false)) ∨
    (∃ reason, deviceVerdict question devices = .veto reason) ∧
      question.currentState ≠ question.nextState ∧ ∃ kind, devices.get kind = true := by
  unfold deviceVerdict
  by_cases hchange : question.currentState = question.nextState
  · exact Or.inl ⟨by simp [Question.isStateChange, hchange], fun hne => absurd hchange hne⟩
  · rw [if_pos (by simpa [Question.isStateChange] using hchange)]
    cases hactive : devices.anyActive with
    | none => exact Or.inl ⟨rfl, fun _ => DeviceStates.anyActive_eq_none.1 hactive⟩
    | some kind => exact Or.inr ⟨⟨_, rfl⟩, hchange, kind, List.find?_some hactive⟩

/-- The constraint answers at once, and minds the activities that go on. -/
def Constraint.Minds {σ : Type} (judge : Constraint σ) : Prop :=
  ∀ question devices state, (judge.start question devices state).1 = deviceVerdict question devices

lemma Plugin.minds_standard : Plugin.standard.constraint.Minds := fun _ _ _ => rfl

/-! ## Steps -/

namespace Rig

variable {σ : Type} {judge : Constraint σ} {policy : Policy} {rig after before : Rig σ}
  {next : State}

/-- The machine awaits no answer; and if it has changed to nap or sleep, no activity goes on. -/
structure Spares (rig after : Rig σ) : Prop where
  answered : after.machine.awaited = none
  idle : after.machine.current ≠ rig.machine.current →
    after.machine.current = .nap ∨ after.machine.current = .sleep →
    ∀ kind, rig.host.devices.get kind = false

lemma spares_of_same (hcurrent : after.machine.current = rig.machine.current)
    (hanswered : after.machine.awaited = none) : rig.Spares after :=
  ⟨hanswered, fun hchanged => absurd hcurrent hchanged⟩

lemma spares_enterOrBlock (hcurrent : before.machine.current = rig.machine.current)
    (hidle : next = .nap ∨ next = .sleep → ∀ kind, rig.host.devices.get kind = false) :
    rig.Spares (before.enterOrBlock policy next) := by
  rcases enterOrBlock_cases policy next before with ⟨-, -, hrefused⟩ | hentered
  · rw [hrefused]
    refine spares_of_same ?_ ?_
    · rw [block_machine]
      exact hcurrent
    · rw [block_machine]
  · refine ⟨hentered.awaited, fun _ hstandby => ?_⟩
    rw [hentered.current] at hstandby
    exact hidle hstandby

lemma spares_retryIfBlocked (hcurrent : before.machine.current = rig.machine.current)
    (hanswered : before.machine.awaited = none) :
    rig.Spares (before.retryIfBlocked policy) := by
  unfold retryIfBlocked
  split
  · rcases retry_cases policy before with ⟨-, hrefused⟩ | hentered
    · rw [hrefused]
      exact spares_of_same hcurrent hanswered
    · exact spares_of_same (hentered.current.trans hcurrent) hentered.awaited
  · exact spares_of_same hcurrent hanswered

lemma spares_goDarkOrRetry (hcurrent : before.machine.current = rig.machine.current)
    (hanswered : before.machine.awaited = none) :
    rig.Spares (before.goDarkOrRetry policy) := by
  unfold goDarkOrRetry
  split
  · exact spares_enterOrBlock hcurrent (by simp)
  · exact spares_retryIfBlocked hcurrent hanswered

lemma spares_wakeUp (hcurrent : before.machine.current = rig.machine.current)
    (hanswered : before.machine.awaited = none) :
    rig.Spares (before.wakeUp judge policy) := by
  unfold wakeUp
  split
  · exact spares_of_same hcurrent hanswered
  · exact spares_enterOrBlock hcurrent (by simp)

/-- No message leads to nap or sleep. -/
lemma spares_handleEvent (hanswered : rig.machine.awaited = none) (message : Message) :
    rig.Spares (rig.handleEvent judge policy message) := by
  unfold handleEvent
  split
  · split
    · exact spares_wakeUp rfl hanswered
    · split
      · exact spares_wakeUp rfl hanswered
      · split
        · exact spares_goDarkOrRetry rfl hanswered
        · split
          · exact spares_goDarkOrRetry rfl hanswered
          · exact spares_retryIfBlocked rfl hanswered
  · exact spares_retryIfBlocked rfl hanswered
  · exact spares_of_same rfl hanswered

/-- When its time has come, the next state is entered unless an activity stands against it. -/
lemma transit_cases (policy : Policy) (hminds : judge.Minds) (hleads : rig.machine.Leads next) :
    ∃ constraint,
    (((next = .nap ∨ next = .sleep) → ∀ kind, rig.host.devices.get kind = false) ∧
      transit judge policy next
          { rig with machine := { rig.machine with stateTimer := none, nextState := none } } =
        (rig.cleared constraint).acquireLock.enterOrBlock policy next) ∨
    ((∃ kind, rig.host.devices.get kind = true) ∧
      transit judge policy next
          { rig with machine := { rig.machine with stateTimer := none, nextState := none } } =
        (rig.cleared constraint).acquireLock.block) := by
  by_cases hasked : next = .nap ∨ next = .sleep
  · obtain ⟨later, htransit⟩ := transit_asked judge policy hasked rig
    have hverdict : rig.verdict judge next =
        deviceVerdict (stateQuestion rig.machine next) rig.host.devices := hminds _ _ _
    refine ⟨later, ?_⟩
    rw [htransit, hverdict]
    rcases deviceVerdict_cases (stateQuestion rig.machine next) rig.host.devices with
      ⟨hpass, hidle⟩ | ⟨⟨reason, hveto⟩, -, hactive⟩
    · rw [hpass]
      exact Or.inl ⟨fun _ => hidle hleads.edge.ne, rfl⟩
    · rw [hveto]
      exact Or.inr ⟨hactive, rfl⟩
  · refine ⟨rig.freed judge, Or.inl ⟨fun hstandby => absurd hstandby hasked, ?_⟩⟩
    exact transit_unasked judge policy hasked rig

/-- An activity that goes on keeps a machine from nap and sleep: it blocks instead. -/
lemma onTimer_of_active (hminds : judge.Minds) (h : rig.machine.Sound) {id : TimerId}
    (htimer : rig.machine.stateTimer = some id) (hnext : rig.machine.nextState = some next)
    (hstandby : next = .nap ∨ next = .sleep) {kind : DeviceKind}
    (hactive : rig.host.devices.get kind = true) :
    (rig.onTimer judge policy id (.transitNextState rig.machine.current)).machine.current =
        rig.machine.current ∧
      (rig.onTimer judge policy id (.transitNextState rig.machine.current)).machine.blocked =
        true := by
  unfold onTimer
  dsimp only
  rw [htimer, hnext, if_pos (by simp)]
  dsimp only
  obtain ⟨constraint, ⟨hidle, -⟩ | ⟨-, hblocked⟩⟩ :=
    transit_cases policy hminds (h.leads next hnext)
  · rw [hidle hstandby kind] at hactive
    cases hactive
  · rw [hblocked, block_machine, acquireLock_machine]
    exact ⟨rfl, rfl⟩

/-- A change of phase is no change of state, and so it is always let pass. -/
lemma advancePhase_of_minds (hminds : judge.Minds) (rig : Rig σ) : ∃ constraint,
    rig.advancePhase judge = enterPhase (rig.machine.phase + 1) { rig with constraint } := by
  have hverdict := hminds (phaseQuestion rig.machine) rig.host.devices rig.constraint
  have hpass : deviceVerdict (phaseQuestion rig.machine) rig.host.devices = .pass := by
    simp [deviceVerdict, Question.isStateChange, phaseQuestion]
  rw [hpass] at hverdict
  have hask : rig.ask judge (phaseQuestion rig.machine) = (.pass, { rig with
      constraint :=
        (judge.start (phaseQuestion rig.machine) rig.host.devices rig.constraint).2 }) :=
    Prod.ext hverdict rfl
  refine ⟨(judge.start (phaseQuestion rig.machine) rig.host.devices rig.constraint).2, ?_⟩
  unfold advancePhase
  rw [hask]

lemma spares_onTimer (hminds : judge.Minds) (h : rig.machine.Sound)
    (hanswered : rig.machine.awaited = none) (id : TimerId) (task : TimerTask) :
    rig.Spares (rig.onTimer judge policy id task) := by
  unfold onTimer
  cases task with
  | transitNextState source =>
    dsimp only
    split
    · cases hnext : rig.machine.nextState with
      | none => exact spares_of_same rfl hanswered
      | some next =>
        dsimp only
        obtain ⟨constraint, ⟨hidle, hentered⟩ | ⟨-, hblocked⟩⟩ :=
          transit_cases policy hminds (h.leads next hnext)
        · rw [hentered]
          refine spares_enterOrBlock ?_ hidle
          rw [acquireLock_machine]
          rfl
        · rw [hblocked]
          refine spares_of_same ?_ ?_
          · rw [block_machine, acquireLock_machine]
            rfl
          · rw [block_machine]
    · exact spares_of_same rfl hanswered
  | transitNextPhase state =>
    dsimp only
    split
    · obtain ⟨constraint, hentered⟩ := advancePhase_of_minds hminds
        ({ rig with machine := { rig.machine with phaseTimer := none } } : Rig σ)
      rw [hentered]
      refine spares_of_same ?_ ?_
      · rw [(settled_enterPhase _ _).machine]
        rfl
      · rw [(settled_enterPhase _ _).machine]
        exact hanswered
    · exact spares_of_same rfl hanswered
  | revokeExpired | dayNightSwitch => exact spares_of_same rfl hanswered

/-- Whatever task the machine takes note of, it does not change to nap or sleep while an activity
goes on. -/
theorem spares_task {rig : Rig Probe} {judge : Constraint Probe} (policy : Policy)
    (hminds : judge.Minds) (h : rig.machine.Sound) (hanswered : rig.machine.awaited = none)
    (task : Task) : rig.Spares (rig.moved judge policy task.move) := by
  cases task with
  | message body => exact spares_handleEvent hanswered body
  | timer id task => exact spares_onTimer hminds h hanswered id task
  | evaluationFinished passed =>
    show rig.Spares (rig.endEvaluation policy passed)
    unfold endEvaluation
    rw [hanswered]
    exact spares_of_same rfl rfl
  | snapshot => exact spares_of_same rfl hanswered

end Rig

/-! ## Engines -/

namespace Engine

variable {e next : Engine}

lemma note_plugin (e : Engine) (call : RoleCall) : (e.note call).plugin = e.plugin := by
  obtain ⟨probe, hprobe⟩ := note_eq e call
  rw [hprobe]

/-- The engine has the default plug-in, its machine is sound and awaits no answer. -/
structure Standard (e : Engine) : Prop where
  plugin : e.plugin = .standard
  sound : e.machine.Sound
  answered : e.machine.awaited = none

/-- If the state has changed to nap or sleep, no activity went on. -/
def Spares (e next : Engine) : Prop :=
  next.machine.current ≠ e.machine.current →
    next.machine.current = .nap ∨ next.machine.current = .sleep →
    ∀ kind, e.host.devices.get kind = false

lemma spares_of_current (h : next.machine.current = e.machine.current) : e.Spares next :=
  fun hchanged => absurd h hchanged

lemma spares_of_working (h : next.machine.current = .working) : e.Spares next := by
  intro _ hstandby
  rw [h] at hstandby
  rcases hstandby with hstandby | hstandby <;> cases hstandby

namespace Standard

lemma of_same (h : e.Standard) (hplugin : next.plugin = e.plugin)
    (hmachine : next.machine = e.machine) : next.Standard ∧ e.Spares next := by
  refine ⟨⟨hplugin.trans h.plugin, ?_, ?_⟩, spares_of_current (by rw [hmachine])⟩
  · rw [hmachine]
    exact h.sound
  · rw [hmachine]
    exact h.answered

lemma handle (h : e.Standard) (task : Task) :
    (e.handle task).Standard ∧ e.Spares (e.handle task) := by
  have hheeded := heeded_handle e task
  obtain ⟨probe, more, hmachine, -, -⟩ := hheeded.work
  have hsound : (e.handle task).machine.Sound :=
    ((show e.Ordered False from ⟨h.sound, False.elim⟩).handle task).machine
  cases hready : e.ready with
  | false =>
    refine h.of_same hheeded.plugin ?_
    rw [hmachine, driven, hready]
    rfl
  | true =>
    have hminds : e.plugin.constraint.Minds := by
      rw [h.plugin]
      exact Plugin.minds_standard
    obtain ⟨hanswered, hidle⟩ := Rig.spares_task e.policy hminds
      (show (⟨e.machine, e.host, probe⟩ : Rig Probe).machine.Sound from h.sound) h.answered task
    rw [driven_of_ready hready] at hmachine
    rw [← hmachine] at hanswered hidle
    exact ⟨⟨hheeded.plugin.trans h.plugin, hsound, hanswered⟩, hidle⟩

lemma uninit (h : e.Standard) : e.uninit.Standard ∧ e.Spares e.uninit := by
  obtain ⟨hmachine, -⟩ := uninit_spec (fun _ => True) e
  have hplugin : e.uninit.plugin = e.plugin := by
    unfold Engine.uninit
    split
    · rfl
    · simp only [audit, drive_eq, note_plugin]
  rcases hmachine with hmachine | hmachine
  · exact h.of_same hplugin hmachine
  · refine ⟨⟨hplugin.trans h.plugin, ?_, ?_⟩, spares_of_current ?_⟩
    all_goals rw [hmachine]
    exact h.sound.stopped

lemma reload (h : e.Standard) (policy : Policy) :
    (e.reload policy).Standard ∧ e.Spares (e.reload policy) := by
  unfold Engine.reload
  dsimp only
  split <;> exact h.of_same rfl rfl

/-- Starting leads to working, if it leads anywhere. -/
lemma rise (h : e.Standard) : e.rise.2.Standard ∧ e.Spares e.rise.2 := by
  refine rise_induct (P := fun next => next.Standard ∧ e.Spares next) ?_ ?_ ?_ ?_
    (h.of_same rfl rfl)
  · rintro next call ⟨hnext, hspares⟩
    refine ⟨(hnext.of_same (next.note_plugin call) (next.note_machine call)).1, ?_⟩
    unfold Spares
    rw [next.note_machine call]
    exact hspares
  · rintro next ⟨hnext, -⟩
    exact ⟨⟨hnext.plugin, Rig.sound_init _, rfl⟩, spares_of_working rfl⟩
  · rintro next strategies listener ⟨hnext, hspares⟩
    exact ⟨⟨hnext.plugin, hnext.sound, hnext.answered⟩, hspares⟩
  · rintro next ⟨hnext, hspares⟩
    exact ⟨⟨hnext.plugin, hnext.sound, hnext.answered⟩, hspares⟩

lemma init (h : e.Standard) (running : Option Processes) :
    (e.init running).2.Standard ∧ e.Spares (e.init running).2 := by
  rw [init_state]
  split
  · exact h.of_same rfl rfl
  · obtain ⟨hrise, hspares⟩ := h.rise
    rcases hresult : e.rise with ⟨_ | _, risen⟩
    · rw [hresult] at hrise hspares
      exact ⟨hrise, hspares⟩
    · rw [hresult] at hrise hspares
      exact ⟨⟨hrise.plugin, hrise.sound, hrise.answered⟩, hspares⟩

lemma act (h : e.Standard) {act : Act} (hact : act ≠ .awaitSnapshot) :
    (e.act act).Standard ∧ e.Spares (e.act act) := by
  by_cases haside : act.IsAside
  · obtain ⟨more, hbeside, -⟩ := beside_act e haside
    exact h.of_same hbeside.plugin hbeside.machine
  · cases act with
    | uninit => exact h.uninit
    | reload policy => exact h.reload policy
    | handle task => exact h.handle task
    | handleNext =>
      rcases act_handleNext e with ⟨-, hsame⟩ | ⟨task, tasks, -, hnext⟩
      · rw [hsame]
        exact h.of_same rfl rfl
      · rw [hnext]
        exact (show (e.withTasks tasks).Standard from ⟨h.plugin, h.sound, h.answered⟩).handle task
    | awaitSnapshot => exact absurd rfl hact
    | operate | apply | unapply | allowList | restrictSet | submit | dispatch | report
    | reportDevice | receive => exact absurd trivial haside

/-- A single move keeps the engine as it is to be, and spares a device in use. -/
theorem after {run : EngineRun} (h : run.engine.Standard) {move : EngineMove}
    (hsingle : move.IsSingle) :
    (run.after move).engine.Standard ∧ run.engine.Spares (run.after move).engine := by
  cases move with
  | act act => exact h.act (fun heq => by rw [heq] at hsingle; exact hsingle)
  | init running => exact h.init running
  | advance millis => exact h.of_same rfl rfl
  | heed timer => exact h.handle (.timer timer.id timer.task)
  | setWall moment => exact h.of_same rfl rfl
  | fail failing on => exact h.of_same rfl rfl

lemma refusePhase (h : e.Standard) : (e.drive Rig.refusePhase).Standard := by
  refine ⟨h.plugin, ?_, ?_⟩
  · rw [drive_eq, Rig.refusePhase_machine]
    exact h.sound.unphased _
  · rw [drive_eq, Rig.refusePhase_machine]
    exact h.answered

end Standard

end Engine

lemma Course.standard {Allows : EngineRun → EngineMove → Prop} {start run : EngineRun}
    {changes : List (State × State)} (h : Course Allows start changes run)
    (hstart : start.engine.Standard) : run.engine.Standard := by
  induction h with
  | start => exact hstart
  | move _ single _ ih => exact (ih.after single).1
  | refusePhase _ ih => exact ih.refusePhase

/-- With the default plug-in, nap and sleep are never entered while an activity goes on, whatever
callers, host, timers and policies do: in a step that changes the state to nap or sleep none goes
on.  If one goes on when the timer that leads to nap or sleep is delivered, the state stays as it is
and the machine blocks. -/
theorem standby_spares_activities {registry : Registry} {policy : Policy} {host : Host}
    {probe : Probe} {e : Engine} (hmade : Engine.create? registry policy host probe = .ok e)
    (hplugin : e.plugin = .standard) {changes : List (State × State)} {run : EngineRun}
    (h : Course (fun _ _ => True) (.begin e) changes run) :
    (∀ move : EngineMove, move.IsSingle →
      (run.after move).engine.machine.current ≠ run.engine.machine.current →
      (run.after move).engine.machine.current = .nap ∨
        (run.after move).engine.machine.current = .sleep →
      ∀ kind, run.engine.host.devices.get kind = false) ∧
    ∀ id next kind, run.engine.ready = true →
      run.engine.machine.stateTimer = some id → run.engine.machine.nextState = some next →
      next = .nap ∨ next = .sleep → run.engine.host.devices.get kind = true →
      (run.engine.handle (.timer id (.transitNextState run.engine.machine.current))).machine.current
        = run.engine.machine.current ∧
      (run.engine.handle
        (.timer id (.transitNextState run.engine.machine.current))).machine.blocked = true := by
  have hstart : e.Standard := by
    have hsound := (Engine.ordered_of_create hmade).machine
    unfold Engine.create? at hmade
    split at hmade
    · cases hmade
    · obtain rfl := Except.ok.inj hmade
      exact ⟨hplugin, hsound, rfl⟩
  have hstandard := h.standard hstart
  constructor
  · intro move hsingle
    exact (hstandard.after hsingle).2
  · intro id next kind hready htimer hnext hstandby hactive
    obtain ⟨probe, more, hmachine, -, -⟩ := (Engine.heeded_handle run.engine
      (.timer id (.transitNextState run.engine.machine.current))).work
    rw [Engine.driven_of_ready hready] at hmachine
    rw [hmachine]
    refine Rig.onTimer_of_active ?_ hstandard.sound htimer hnext hstandby hactive
    rw [hstandard.plugin]
    exact Plugin.minds_standard

/-! ## Dusk -/

/-- The engine is started and the screen switched off; five minutes later it is time to nap. -/
def EngineMove.dusk : List EngineMove :=
  [.init none, .act (.receive (.screenStatus false)), .act .handleNext, .advance 300000]

/-- While the device is idle it takes a nap; but during a call it does not. -/
theorem standby_spares_calls :
    let idle := (EngineRun.begin (Engine.plain (Policy.default {}))).afterAll EngineMove.dusk
    let calling := idle.after (.act (.receive (.callStateChanged 0)))
    ((idle.after (.heed ⟨2, 300000, .transitNextState .dark⟩)).engine.machine.current = .nap ∧
      ∀ kind, idle.engine.host.devices.get kind = false) ∧
    (calling.engine.handle (.timer 2 (.transitNextState .dark))).machine.current = .dark ∧
      (calling.engine.handle (.timer 2 (.transitNextState .dark))).machine.blocked = true := by
  intro idle calling
  have hsingle : ∀ move ∈ EngineMove.dusk, move.IsSingle := by
    simp [EngineMove.dusk, EngineMove.IsSingle]
  have hidle : Course (fun _ _ => True) (.begin (Engine.plain (Policy.default {}))) _ idle :=
    Course.start.afterAll hsingle (fun _ _ _ => trivial)
  have hcalling : Course (fun _ _ => True) (.begin (Engine.plain (Policy.default {}))) _ calling :=
    hidle.move trivial trivial
  obtain ⟨hnap, -⟩ := standby_spares_activities (Engine.create?_plain rfl) rfl hidle
  obtain ⟨-, hblocked⟩ := standby_spares_activities (Engine.create?_plain rfl) rfl hcalling
  refine ⟨⟨by decide +kernel, ?_⟩, ?_⟩
  · exact hnap (.heed ⟨2, 300000, .transitNextState .dark⟩) trivial (by decide +kernel)
      (Or.inl (by decide +kernel))
  · have hdark : calling.engine.machine.current = .dark := by decide +kernel
    have hcalled := hblocked 2 .nap .telephone (by decide +kernel) (by decide +kernel)
      (by decide +kernel) (Or.inl rfl) (by decide +kernel)
    rwa [hdark] at hcalled

end DeviceStandby
