import DeviceStandby.Proofs.IdleDevice

/-!
# A transition that fails commits nothing

A transition fails (`Rig.Fails`) if the constraint vetoes it, at once or later, or if the state
takes a timer and none can be armed.  The second can come to light in four places: when a state
timer is delivered, when a late answer lets the machine pass, when an idle device is to go dark, and
when a blocked machine enters its state once more.

In each of them the machine is left blocked after it (`Rig.blocked_moved_iff`, which says that there
are no others), and whichever step leaves a machine blocked has changed nothing but the schedule of
the machine, which is empty then (`Rig.Step.halted`).  So the plan of a state that was not entered,
its back-off and its deadline, is lost altogether, and the next attempt is planned as this one was
(`Rig.Halted.planEntry_eq`).
-/

namespace DeviceStandby

namespace Machine

/-- A blocked machine does not hold the wake lock. -/
def Released (m : Machine) : Prop := m.blocked = true → m.lockHeld = false

/-- A sound machine that is blocked has nothing scheduled already. -/
lemma Sound.eq_halted {m : Machine} (h : m.Sound) (hreleased : m.Released)
    (hblocked : m.blocked = true) : ({ m with
      stateTimer := none, nextState := none, phaseTimer := none, awaited := none
      blocked := true, lockHeld := false } : Machine) = m := by
  obtain ⟨htimer, hnext, hawaited⟩ := h.blocked hblocked
  have hphase := h.phaseTimer_eq_none_of_blocked hblocked
  rw [← hreleased hblocked, ← hblocked]
  cases m
  simp_all

/-- A plan is made without regard to what is scheduled, awaited or known of the screen. -/
lemma planEntry_congr {m other : Machine} (policy : Policy) (now : Int) (next : State)
    (h : other = { m with
      blocked := other.blocked, screenOn := other.screenOn, charging := other.charging
      stateTimer := other.stateTimer, nextState := other.nextState
      phaseTimer := other.phaseTimer, awaited := other.awaited, lockHeld := other.lockHeld }) :
    other.planEntry policy now next = m.planEntry policy now next := by
  rw [h]
  cases next <;> rfl

end Machine

namespace Rig

variable {σ : Type} {judge : Constraint σ} {policy : Policy} {next : State} {rig after : Rig σ}

/-! ## States that cannot be entered -/

/-- The state takes a timer, and no timer can be armed. -/
def Refuses (policy : Policy) (next : State) (rig : Rig σ) : Prop :=
  rig.host.timers.failing = true ∧ (rig.plan policy next).timer.isSome = true

lemma not_refuses_working : ¬ rig.Refuses policy .working := by
  rintro ⟨-, htimer⟩
  cases htimer

lemma refuses_congr {other : Rig σ} (htimers : other.host.timers = rig.host.timers)
    (hmachine : other.machine = { rig.machine with
      blocked := other.machine.blocked, screenOn := other.machine.screenOn
      charging := other.machine.charging, stateTimer := other.machine.stateTimer
      nextState := other.machine.nextState, phaseTimer := other.machine.phaseTimer
      awaited := other.machine.awaited, lockHeld := other.machine.lockHeld }) :
    other.Refuses policy next ↔ rig.Refuses policy next := by
  unfold Refuses plan Host.now
  rw [htimers, Machine.planEntry_congr policy _ next hmachine]

lemma refuses_noted {message : Message} :
    (rig.noted message).Refuses policy next ↔ rig.Refuses policy next :=
  refuses_congr rfl rfl

lemma refuses_ready {prepared : Rig σ} {constraint : σ}
    (ready : prepared = rig.cleared constraint ∨
      prepared = (rig.cleared constraint).acquireLock) :
    prepared.Refuses policy next ↔ rig.Refuses policy next := by
  obtain ⟨hmachine, htimers, -⟩ := ready_frame ready
  refine refuses_congr htimers ?_
  rw [hmachine]

lemma enter_of_refuses (h : rig.Refuses policy next) :
    rig.enter policy next = (false, rig.cancelTimers) := by
  obtain ⟨hfailing, htimer⟩ := h
  obtain ⟨⟨delay, target⟩, hplan⟩ := Option.isSome_iff_exists.1 htimer
  have hfails : rig.cancelTimers.host.timers.failing = true := by
    simpa [cancelTimers] using hfailing
  unfold enter
  dsimp only
  rw [← plan, hplan]
  dsimp only
  rw [Host.arm_of_failing _ _ _ hfails]

lemma blocked_enterOrBlock :
    (rig.enterOrBlock policy next).machine.blocked = true ↔ rig.Refuses policy next := by
  constructor
  · intro hblocked
    rcases enterOrBlock_cases policy next rig with ⟨hfailing, htimer, -⟩ | hentered
    · exact ⟨hfailing, htimer⟩
    · rw [hentered.unblocked] at hblocked
      cases hblocked
  · intro hrefuses
    rw [enterOrBlock, enter_of_refuses hrefuses]
    simp

/-- A machine stays blocked if it cannot enter its own state. -/
lemma blocked_retryIfBlocked : (rig.retryIfBlocked policy).machine.blocked = true ↔
    rig.machine.blocked = true ∧ rig.Refuses policy rig.machine.current := by
  unfold retryIfBlocked
  split
  · rename_i hblocked
    constructor
    · intro hstill
      refine ⟨hblocked, ?_⟩
      rcases enter_cases policy rig.machine.current rig with
        ⟨hfailing, htimer, -⟩ | ⟨after, henter, hentered⟩
      · exact ⟨hfailing, htimer⟩
      · rw [henter, hentered.unblocked] at hstill
        cases hstill
    · rintro ⟨-, hrefuses⟩
      rw [enter_of_refuses hrefuses]
      exact hblocked
  · rename_i hfree
    exact ⟨fun hblocked => absurd hblocked hfree, fun h => absurd h.1 hfree⟩

/-! ## What the constraint says -/

/-- The constraint is asked about the state, and vetoes it. -/
def Vetoes (judge : Constraint σ) (next : State) (rig : Rig σ) : Prop :=
  (next = .nap ∨ next = .sleep) ∧ ∃ reason, rig.verdict judge next = .veto reason

/-- The constraint lets the state pass, if it is asked. -/
def Passes (judge : Constraint σ) (next : State) (rig : Rig σ) : Prop :=
  next = .nap ∨ next = .sleep → rig.verdict judge next = .pass

/-- When its time has come the machine is left blocked if the constraint vetoes the next state, or
lets it pass and the state cannot be entered. -/
lemma blocked_transit (hfree : rig.machine.blocked = false) :
    (transit judge policy next { rig with machine :=
      { rig.machine with stateTimer := none, nextState := none } }).machine.blocked = true ↔
    rig.Vetoes judge next ∨ rig.Passes judge next ∧ rig.Refuses policy next := by
  unfold Vetoes Passes
  by_cases hasked : next = .nap ∨ next = .sleep
  · obtain ⟨later, htransit⟩ := transit_asked judge policy hasked rig
    rw [htransit]
    cases rig.verdict judge next with
    | pass => simp [blocked_enterOrBlock, refuses_ready (Or.inr rfl), hasked]
    | veto reason => simp [hasked]
    | pending => simp [acquireLock_machine, cleared, hfree, hasked]
  · rw [transit_unasked judge policy hasked]
    simp [blocked_enterOrBlock, refuses_ready (Or.inr rfl), hasked]

/-! ## Failed transitions -/

/-- An attempt to enter a state fails in this move. -/
inductive Fails (judge : Constraint σ) (policy : Policy) (rig : Rig σ) : MachineMove σ → Prop where
  /-- The state timer leads to a state that the constraint vetoes at once. -/
  | veto {id : TimerId} {next : State} (due : rig.machine.stateTimer = some id)
      (leads : rig.machine.nextState = some next) (vetoed : rig.Vetoes judge next) :
      Fails judge policy rig (.deliver id (.transitNextState rig.machine.current))
  | timer {id : TimerId} {next : State} (due : rig.machine.stateTimer = some id)
      (leads : rig.machine.nextState = some next) (passed : rig.Passes judge next)
      (refused : rig.Refuses policy next) :
      Fails judge policy rig (.deliver id (.transitNextState rig.machine.current))
  | lateVeto {next : State} (awaited : rig.machine.awaited = some (.state next)) :
      Fails judge policy rig (.answer false)
  | latePass {next : State} (awaited : rig.machine.awaited = some (.state next))
      (refused : rig.Refuses policy next) : Fails judge policy rig (.answer true)
  | dusk {message : Message} (rests : tellsRest message)
      (idle : mayGoDark (rig.noted message).machine = true) (refused : rig.Refuses policy .dark) :
      Fails judge policy rig (.handle message)
  /-- A machine that is blocked already cannot enter its state once more. -/
  | retry {message : Message} (retries : (.handle message : MachineMove σ).Retries)
      (sleeps : ¬ tellsUse message) (blocked : rig.machine.blocked = true)
      (refused : rig.Refuses policy rig.machine.current) : Fails judge policy rig (.handle message)

lemma fails_handle {message : Message} : Fails judge policy rig (.handle message) ↔
    tellsRest message ∧ mayGoDark (rig.noted message).machine = true ∧ rig.Refuses policy .dark ∨
    (.handle message : MachineMove σ).Retries ∧ ¬ tellsUse message ∧
      rig.machine.blocked = true ∧ rig.Refuses policy rig.machine.current := by
  constructor
  · intro h
    cases h with
    | dusk rests idle refused => exact Or.inl ⟨rests, idle, refused⟩
    | retry retries sleeps blocked refused => exact Or.inr ⟨retries, sleeps, blocked, refused⟩
  · rintro (⟨rests, idle, refused⟩ | ⟨retries, sleeps, blocked, refused⟩)
    · exact .dusk rests idle refused
    · exact .retry retries sleeps blocked refused

lemma retries_of_tells {message : Message} (h : tellsUse message ∨ tellsRest message) :
    (.handle message : MachineMove σ).Retries := by
  refine Or.inl ?_
  rcases h with (h | h) | (h | h) <;> exact (by simpa [Message.reports] using h : _ ∧ _).1

lemma not_tellsUse_of_tellsRest {message : Message} (h : tellsRest message) :
    ¬ tellsUse message := by
  simp only [tellsRest, tellsUse, Message.reports, Bool.and_eq_true, decide_eq_true_eq] at h ⊢
  rintro (⟨-, huse⟩ | ⟨-, huse⟩) <;> rcases h with ⟨-, hrest⟩ | ⟨-, hrest⟩ <;>
    exact absurd (huse.symm.trans hrest) (by decide)

lemma blocked_handleEvent (message : Message) :
    (rig.handleEvent judge policy message).machine.blocked = true ↔
      Fails judge policy rig (.handle message) ∨
        rig.machine.blocked = true ∧ ¬ (.handle message : MachineMove σ).Retries := by
  rw [fails_handle]
  by_cases huse : tellsUse message
  · have hawake : ¬ tellsRest message := fun hrest => not_tellsUse_of_tellsRest hrest huse
    simp [(handleEvent_of_tellsUse judge policy rig huse).2, huse, hawake,
      retries_of_tells (Or.inl huse)]
  by_cases hrest : tellsRest message
  · rw [handleEvent_of_tellsRest hrest, goDarkOrRetry]
    by_cases hidle : mayGoDark (rig.noted message).machine = true
    · -- In working there is nothing to be refused when it is entered once more.
      have hworking : rig.machine.current = .working := (mayGoDark_iff.1 hidle).1
      simp [hidle, blocked_enterOrBlock, refuses_noted, hrest, retries_of_tells (Or.inr hrest),
        hworking, not_refuses_working]
    · rw [if_neg hidle, blocked_retryIfBlocked, refuses_noted]
      change rig.machine.blocked = true ∧ rig.Refuses policy rig.machine.current ↔ _
      simp [huse, hidle, retries_of_tells (Or.inr hrest)]
  · rw [handleEvent_of_silent judge policy rig huse hrest]
    split
    · rename_i hretries
      simp [blocked_retryIfBlocked, hrest, huse, MachineMove.Retries, hretries]
    · rename_i hretries
      simp [hrest, MachineMove.Retries, hretries]

lemma enterPhase_blocked (next : Nat) (rig : Rig σ) :
    (rig.enterPhase next).machine.blocked = rig.machine.blocked := by
  rw [(settled_enterPhase next rig).machine]
  rfl

lemma advancePhase_blocked (judge : Constraint σ) (rig : Rig σ) :
    (rig.advancePhase judge).machine.blocked = rig.machine.blocked := by
  unfold advancePhase
  have hasked : (rig.ask judge (phaseQuestion rig.machine)).2.machine = rig.machine := rfl
  rcases hanswer : rig.ask judge (phaseQuestion rig.machine) with ⟨_ | _ | _, asked⟩
  all_goals
    rw [hanswer] at hasked
    rw [← hasked]
  · exact enterPhase_blocked _ _
  · simp

lemma blocked_onTimer (hsound : rig.machine.Sound) (id : TimerId) (task : TimerTask) :
    (rig.onTimer judge policy id task).machine.blocked = true ↔
      Fails judge policy rig (.deliver id task) ∨ rig.machine.blocked = true := by
  by_cases hdue : rig.machine.stateTimer = some id ∧ task = .transitNextState rig.machine.current
  · obtain ⟨htimer, rfl⟩ := hdue
    obtain ⟨next, hnext⟩ := Option.isSome_iff_exists.1 (hsound.timer (by rw [htimer]; rfl))
    have hfree : rig.machine.blocked = false := Bool.eq_false_iff.2 fun hblocked => by
      rw [(hsound.blocked hblocked).1] at htimer
      cases htimer
    have htransit : rig.onTimer judge policy id (.transitNextState rig.machine.current) =
        transit judge policy next
          { rig with machine := { rig.machine with stateTimer := none, nextState := none } } := by
      simp [onTimer, htimer, hnext]
    rw [htransit, blocked_transit hfree, hfree]
    constructor
    · rintro (hvetoed | ⟨hpassed, hrefused⟩)
      · exact Or.inl (.veto htimer hnext hvetoed)
      · exact Or.inl (.timer htimer hnext hpassed hrefused)
    · rintro (hfails | hblocked)
      · cases hfails with
        | veto due leads vetoed =>
          cases hnext.symm.trans leads
          exact Or.inl vetoed
        | timer due leads passed refused =>
          cases hnext.symm.trans leads
          exact Or.inr ⟨passed, refused⟩
      · cases hblocked
  · have hstands : ¬ Fails judge policy rig (.deliver id task) := by
      intro hfails
      cases hfails with
      | veto due | timer due => exact hdue ⟨due, rfl⟩
    have hkept : (rig.onTimer judge policy id task).machine.blocked = rig.machine.blocked := by
      unfold onTimer
      cases task with
      | transitNextState source =>
        dsimp only
        split
        · rename_i hsame
          exact absurd (by simpa using hsame) hdue
        · rfl
      | transitNextPhase state =>
        dsimp only
        split
        · exact advancePhase_blocked judge _
        · rfl
      | revokeExpired | dayNightSwitch => rfl
    rw [hkept]
    simp [hstands]

lemma blocked_endEvaluation (judge : Constraint σ) (hsound : rig.machine.Sound) (passed : Bool) :
    (rig.endEvaluation policy passed).machine.blocked = true ↔
      Fails judge policy rig (.answer passed) ∨ rig.machine.blocked = true := by
  have hfree : rig.machine.awaited.isSome = true → rig.machine.blocked = false := by
    intro hsome
    refine Bool.eq_false_iff.2 fun hblocked => ?_
    rw [(hsound.blocked hblocked).2.2] at hsome
    cases hsome
  unfold endEvaluation
  dsimp only
  rcases hawaited : rig.machine.awaited with _ | next | next
  · have hstands : ¬ Fails judge policy rig (.answer passed) := by
      intro hfails
      cases hfails <;> simp_all
    simp [hstands]
  · rw [hawaited] at hfree
    simp only [hfree rfl, Bool.false_eq_true, or_false]
    cases passed with
    | true =>
      rw [if_pos rfl, blocked_enterOrBlock]
      change rig.Refuses policy next ↔ _
      constructor
      · exact fun hrefuses => .latePass hawaited hrefuses
      · intro hfails
        cases hfails with
        | latePass awaited refused =>
          cases hawaited.symm.trans awaited
          exact refused
    | false => simpa using Fails.lateVeto hawaited
  · have hstands : ¬ Fails judge policy rig (.answer passed) := by
      intro hfails
      cases hfails <;> simp_all
    cases passed <;> simp [hstands, enterPhase_blocked]

/-- After any move of a sound machine, it is blocked if a transition has failed in that move, or if
it was blocked and neither tried again nor was started anew. -/
theorem blocked_moved_iff (hsound : rig.machine.Sound) (move : MachineMove σ) :
    (rig.moved judge policy move).machine.blocked = true ↔ Fails judge policy rig move ∨
      rig.machine.blocked = true ∧ ¬ move.Retries ∧ move ≠ .init := by
  cases move with
  | handle message =>
    rw [moved, blocked_handleEvent]
    simp
  | deliver id task =>
    rw [moved, blocked_onTimer hsound]
    simp [MachineMove.Retries]
  | answer passed =>
    rw [moved, blocked_endEvaluation judge hsound]
    simp [MachineMove.Retries]
  | init =>
    have hstands : ¬ Fails judge policy rig .init := fun hfails => by cases hfails
    simp [moved, init, hstands]
  | uninit | refusePhase | host | reload | think =>
    constructor
    · intro hblocked
      refine Or.inr ⟨?_, id, fun hinit => by cases hinit⟩
      simpa [moved, uninit_machine, refusePhase_machine] using hblocked
    · rintro (hfails | ⟨hblocked, -⟩)
      · cases hfails
      · simpa [moved, uninit_machine, refusePhase_machine] using hblocked

/-! ## What is left -/

/-- The machine is blocked and has nothing scheduled, and apart from that it is as it was; nothing
was told or put on record. -/
structure Halted (rig after : Rig σ) : Prop where
  machine : after.machine = { rig.machine with
    stateTimer := none, nextState := none, phaseTimer := none, awaited := none
    blocked := true, lockHeld := false }
  queue : after.host.queue = rig.host.queue
  store : after.host.store = rig.host.store

lemma Halted.of_ready {prepared : Rig σ} {constraint : σ}
    (ready : prepared = rig.cleared constraint ∨
      prepared = (rig.cleared constraint).acquireLock) (h : Halted prepared after) :
    Halted rig after := by
  obtain ⟨hmachine, -, hqueue, hstore⟩ := ready_frame ready
  refine ⟨?_, h.queue.trans hqueue, h.store.trans hstore⟩
  rw [h.machine, hmachine]

lemma halted_enterOrBlock (hnone : rig.machine.nextState = none)
    (hblocked : (rig.enterOrBlock policy next).machine.blocked = true) :
    Halted rig (rig.enterOrBlock policy next) := by
  rw [enterOrBlock, enter_of_refuses (blocked_enterOrBlock.1 hblocked)]
  refine ⟨?_, by simp, by simp⟩
  dsimp only
  rw [block_machine, cancelTimers_machine, ← hnone]

/-- A step that leaves the machine blocked has not entered any state. -/
theorem Step.halted {delivery : Delivery} (hstep : Step policy rig delivery after)
    (hsound : rig.machine.Sound) (hreleased : rig.machine.Released)
    (hblocked : after.machine.blocked = true) : Halted rig after := by
  cases hstep with
  | rest => exact ⟨(hsound.eq_halted hreleased hblocked).symm, rfl, rfl⟩
  | wake constraint =>
    rw [(entered_working policy _).unblocked] at hblocked
    cases hblocked
  | dark idle =>
    exact halted_enterOrBlock (hsound.nextState_eq_none (mayGoDark_iff.1 idle).1) hblocked
  | retry blocked =>
    rcases retry_cases policy rig with ⟨-, hrefused⟩ | hentered
    · rw [hrefused]
      refine ⟨?_, by simp, by simp⟩
      exact (congrArg (fun m : Machine => { m with stateTimer := none, phaseTimer := none })
        (hsound.eq_halted hreleased blocked)).symm
    · rw [hentered.unblocked] at hblocked
      cases hblocked
  | depart constraint ready leads =>
    refine .of_ready ready (halted_enterOrBlock ?_ hblocked)
    rw [(ready_frame ready).1]
  | refuse constraint ready leads asked =>
    refine .of_ready ready ⟨?_, by simp, by simp⟩
    -- The constraint is asked about nap and sleep only, and sleep leads to neither.
    rw [block_machine, (ready_frame ready).1]
    dsimp only
    rw [hsound.phaseTimer_eq_none (leads.ne_sleep asked)]
  | await constraint ready leads asked unblocked =>
    rw [(ready_frame (Or.inr ready)).1] at hblocked
    rw [unblocked] at hblocked
    cases hblocked
  | phase constraint ahead =>
    rw [enterPhase_blocked] at hblocked
    rw [lulled, ahead.unblocked] at hblocked
    cases hblocked
  | awaitPhase constraint ahead =>
    rw [lulled, ahead.unblocked] at hblocked
    cases hblocked
  | endPhases constraint ahead =>
    rw [releaseLock_machine, lulled, ahead.unblocked] at hblocked
    cases hblocked

lemma Halted.released (h : Halted rig after) : after.machine.lockHeld = false :=
  congrArg Machine.lockHeld h.machine

/-- Whatever is tried next is planned as if nothing had been tried before. -/
theorem Halted.planEntry_eq (h : Halted rig after) (policy : Policy) (now : Int) (next : State) :
    after.machine.planEntry policy now next = rig.machine.planEntry policy now next := by
  refine Machine.planEntry_congr policy now next ?_
  rw [h.machine]

/-- Whatever happens, a sound machine that is blocked does not hold the wake lock. -/
lemma released_moved (hsound : rig.machine.Sound) (h : rig.machine.Released)
    (move : MachineMove σ) : (rig.moved judge policy move).machine.Released := by
  intro hblocked
  cases move with
  | handle message =>
    have hstep := step_handleEvent judge policy message rig
    exact (hstep.halted (hsound.noted _ _) h hblocked).released
  | deliver id task =>
    have hstep := step_onTimer judge policy hsound id task
    exact (hstep.halted hsound h hblocked).released
  | answer passed =>
    have hstep := step_endEvaluation policy hsound passed
    exact (hstep.halted hsound h hblocked).released
  | init => cases hblocked
  | uninit => rw [moved, uninit_machine]
  | refusePhase =>
    rw [moved, refusePhase_machine] at hblocked ⊢
    exact Bool.and_eq_false_imp.2 fun hheld => by rw [h hblocked] at hheld; cases hheld
  | host | reload | think => exact h hblocked

/-- What is known when a move begins: a message is noted before anything else. -/
def informed (rig : Rig σ) : MachineMove σ → Rig σ
  | .handle message => rig.noted message
  | _ => rig

/-- Where a transition fails, the schedule of the machine is emptied and nothing else is done. -/
lemma Fails.halted {move : MachineMove σ} (hfails : Fails judge policy rig move)
    (hsound : rig.machine.Sound) (hreleased : rig.machine.Released) :
    Halted (rig.informed move) (rig.moved judge policy move) := by
  have hblocked := (blocked_moved_iff hsound move).2 (Or.inl hfails)
  cases hfails with
  | veto | timer => exact (step_onTimer judge policy hsound _ _).halted hsound hreleased hblocked
  | lateVeto | latePass =>
    exact (step_endEvaluation policy hsound _).halted hsound hreleased hblocked
  | dusk | retry =>
    exact (step_handleEvent judge policy _ rig).halted (hsound.noted _ _) hreleased hblocked

end Rig

/-! ## Runs -/

namespace MachineRun.Reachable

variable {σ : Type} {judge : Constraint σ} {host : Host} {constraint : σ} {policy : Policy}
  {run : MachineRun σ} {Allows : MachineRun σ → MachineMove σ → Prop}

lemma released (h : Reachable judge Allows (.start ⟨{}, host, constraint⟩ policy) run) :
    run.rig.machine.Released := by
  induction h with
  | start => exact fun _ => rfl
  | move reached _ ih => exact Rig.released_moved reached.sound ih _

end MachineRun.Reachable

/-- In a run of a new machine, whatever has happened in it, let a move fail to enter a state: the
constraint vetoes the state, at once or by a late answer; or the state takes a timer and none can be
armed, when a state timer is delivered, when a late answer lets the machine pass, or when a message
makes the machine go dark or, if it is blocked, try again.

Then the machine is blocked after the move, awaits nothing, has nothing scheduled and does not hold
the wake lock; if the lock can be taken whenever it is asked for, it was let go as often as it was
taken.  Apart from that the machine is as it was before, once the message was noted: in its state
and its phase, with its deadline, its back-off and the state that maintenance goes back to, and with
what it knows of screen and charger.  No message was posted, the record of the changes is the same,
and none of the timers of the machine are armed. -/
theorem failed_transition_commits_nothing {σ : Type} {judge : Constraint σ} {host : Host}
    {constraint : σ} {policy : Policy} {run : MachineRun σ} {move : MachineMove σ}
    (hunarmed : Rig.Unarmed host)
    (h : MachineRun.Reachable judge MachineRun.Fires (.start ⟨{}, host, constraint⟩ policy) run)
    (hfires : run.Fires move) (hfails : run.rig.Fails judge run.policy move) :
    (run.after judge move).rig.machine = { (run.rig.informed move).machine with
      stateTimer := none, nextState := none, phaseTimer := none, awaited := none
      blocked := true, lockHeld := false } ∧
    (run.after judge move).rig.host.queue = run.rig.host.queue ∧
    (run.after judge move).rig.host.store = run.rig.host.store ∧
    Rig.Unarmed (run.after judge move).rig.host ∧
    (host.wakeLock = {} →
      MachineRun.Reachable judge (fun _ other => other ≠ .host (.fail .acquire true))
        (.start ⟨{}, host, constraint⟩ policy) run →
      (run.after judge move).rig.host.wakeLock.acquires =
        (run.after judge move).rig.host.wakeLock.releases) := by
  have hhalted : Rig.Halted (run.rig.informed move) (run.after judge move).rig :=
    hfails.halted h.sound h.released
  have hsame : (run.rig.informed move).host = run.rig.host := by cases move <;> rfl
  have hmachine := hhalted.machine
  refine ⟨hmachine, ?_, ?_, ?_, fun hnew hworks => ?_⟩
  · rw [hhalted.queue, hsame]
  · rw [hhalted.store, hsame]
  · exact ((h.move hfires).owns hunarmed).unarmed (congrArg Machine.stateTimer hmachine)
      (congrArg Machine.phaseTimer hmachine)
  · have hmoved : move ≠ .host (.fail .acquire true) := by
      rintro rfl
      cases hfails
    have hcalls := ((hworks.move hmoved).balanced hnew).calls
    rw [hhalted.released] at hcalls
    exact hcalls

/-- The policy that lets a device sleep and not nap. -/
def Policy.napless : Policy := { Policy.default {} with napSwitch := false }

/-- The device sleeps, and the constraint has not said yet whether it may enter the next phase.
Meanwhile timers cannot be armed any more, and the timer for maintenance has fired. -/
def MachineRun.undecided : MachineRun Probe :=
  (start ⟨{}, {}, { script := some .pass }⟩ Policy.napless).afterAll Probe.constraint
    [.handle (.event Action.screenOff), .host (.advance 300000),
      .deliver 1 (.transitNextState .dark), .host (.advance 0), .think { script := some .pending },
      .deliver 3 (.transitNextPhase .sleep), .host (.fail .arm true), .host (.advance 3600000)]

/-- When that timer is delivered, maintenance cannot be entered; the device goes on sleeping, and
the lock that was held for the answer is let go. -/
theorem failed_transition_from_sleep :
    MachineRun.undecided.rig.machine.awaited = some (.phase 1) ∧
    MachineRun.undecided.rig.machine.lockHeld = true ∧
    (MachineRun.undecided.after Probe.constraint
      (.deliver 2 (.transitNextState .sleep))).rig.machine =
      { MachineRun.undecided.rig.machine with
        stateTimer := none, nextState := none, phaseTimer := none, awaited := none
        blocked := true, lockHeld := false } ∧
    (MachineRun.undecided.after Probe.constraint
      (.deliver 2 (.transitNextState .sleep))).rig.host.store =
      MachineRun.undecided.rig.host.store ∧
    (MachineRun.undecided.after Probe.constraint
      (.deliver 2 (.transitNextState .sleep))).rig.host.wakeLock.acquires =
      (MachineRun.undecided.after Probe.constraint
        (.deliver 2 (.transitNextState .sleep))).rig.host.wakeLock.releases := by
  have hreached : MachineRun.Reachable Probe.constraint MachineRun.Fires
      (.start ⟨{}, {}, { script := some .pass }⟩ Policy.napless) MachineRun.undecided := by
    refine .move (.move (.move (.move (.move (.move (.move (.move .start ?_) ?_) ?_) ?_) ?_) ?_)
      ?_) ?_
    all_goals decide +kernel
  have hworks : MachineRun.Reachable Probe.constraint
      (fun _ move => move ≠ .host (.fail .acquire true))
      (.start ⟨{}, {}, { script := some .pass }⟩ Policy.napless) MachineRun.undecided :=
    .afterAll .start (by simp)
  have hcurrent : MachineRun.undecided.rig.machine.current = .sleep := by decide +kernel
  have hfails : MachineRun.undecided.rig.Fails Probe.constraint MachineRun.undecided.policy
      (.deliver 2 (.transitNextState .sleep)) := by
    rw [← hcurrent]
    have hleads : MachineRun.undecided.rig.machine.nextState = some .maintenance := by
      decide +kernel
    refine .timer (by decide +kernel) hleads ?_ ⟨by decide +kernel, by decide +kernel⟩
    rintro (hnap | hsleep)
    · cases hnap
    · cases hsleep
  obtain ⟨hmachine, -, hstore, -, hlock⟩ := failed_transition_commits_nothing
    (fun timer hmem => by cases hmem) hreached (by decide +kernel) hfails
  exact ⟨by decide +kernel, by decide +kernel, hmachine, hstore, hlock rfl hworks⟩

end DeviceStandby
