import DeviceStandby.Proofs.WakeLock

/-!
# A device in use does not stand by

While the machine is in any other state than working, the screen is off and no charger is connected
(`Machine.Idle`): only a machine that knows of this leaves working, and whatever tells otherwise
brings it back.

Back in working nothing is left of standing by.  Most of this is soundness; that no timer is left
takes that the machine remembers all timers that it has armed (`Rig.Owns`), and so cancels them all.
A timer that was delivered but is still armed would escape this, so timers must have fired before
they are delivered.
-/

namespace DeviceStandby

/-- What the machine knows of the screen is what it was told last, and if it stands by the device is
not in use. -/
structure Machine.Idle (screen : Option Bool) (m : Machine) : Prop where
  screen : m.screenOn = screen.getD true
  off : m.current ≠ .working → m.screenOn = false ∧ m.charging = false

/-- Whether the timer is one of the state machine. -/
def TimerTask.ofMachine : TimerTask → Bool
  | transitNextState _ | transitNextPhase _ => true
  | revokeExpired _ _ _ | dayNightSwitch => false

namespace Rig

variable {σ : Type} {policy : Policy} {rig after : Rig σ}

/-! ## Screen and charger -/

lemma senses_enterOrBlock (policy : Policy) (next : State) (rig : Rig σ) :
    (rig.enterOrBlock policy next).machine.screenOn = rig.machine.screenOn ∧
      (rig.enterOrBlock policy next).machine.charging = rig.machine.charging := by
  rcases enterOrBlock_cases policy next rig with ⟨-, -, hrefused⟩ | hentered
  · rw [hrefused, block_machine]
    exact ⟨rfl, rfl⟩
  · exact hentered.senses

/-- No step changes what is known of screen and charger. -/
lemma Step.senses {delivery : Delivery}
    (hstep : Step policy rig delivery after) :
    after.machine.screenOn = rig.machine.screenOn ∧
      after.machine.charging = rig.machine.charging := by
  cases hstep with
  | rest => exact ⟨rfl, rfl⟩
  | wake constraint => exact senses_enterOrBlock policy .working _
  | dark idle => exact senses_enterOrBlock policy .dark rig
  | retry blocked =>
    rcases retry_cases policy rig with ⟨-, hrefused⟩ | hentered
    · rw [hrefused]
      exact ⟨rfl, rfl⟩
    · exact hentered.senses
  | @depart prepared next constraint ready leads =>
    obtain ⟨hmachine, -⟩ := ready_frame ready
    have hsenses := senses_enterOrBlock policy next prepared
    rw [hmachine] at hsenses
    exact hsenses
  | refuse constraint ready leads asked =>
    obtain ⟨hmachine, -⟩ := ready_frame ready
    rw [block_machine, hmachine]
    exact ⟨rfl, rfl⟩
  | await constraint ready leads asked unblocked =>
    obtain ⟨hmachine, -⟩ := ready_frame (Or.inr ready)
    rw [hmachine]
    exact ⟨rfl, rfl⟩
  | phase constraint ahead =>
    rw [(settled_enterPhase _ _).machine]
    exact ⟨rfl, rfl⟩
  | awaitPhase constraint ahead => exact ⟨rfl, rfl⟩
  | endPhases constraint ahead =>
    rw [releaseLock_machine]
    exact ⟨rfl, rfl⟩

/-- Only a machine that may go dark leaves working. -/
lemma Step.asleep {delivery : Delivery}
    (hstep : Step policy rig delivery after) (hasleep : after.machine.current ≠ .working) :
    rig.machine.current ≠ .working ∨ mayGoDark rig.machine = true := by
  cases hstep with
  | rest => exact Or.inl hasleep
  | wake constraint => exact absurd (entered_working policy _).current hasleep
  | dark idle => exact Or.inr idle
  | retry blocked =>
    rcases retry_cases policy rig with ⟨-, hrefused⟩ | hentered
    · rw [hrefused] at hasleep
      exact Or.inl hasleep
    · rw [hentered.current] at hasleep
      exact Or.inl hasleep
  | depart constraint ready leads => exact Or.inl leads.ne_working
  | refuse constraint ready leads asked => exact Or.inl leads.ne_working
  | await constraint ready leads asked unblocked => exact Or.inl leads.ne_working
  | phase constraint ahead | awaitPhase constraint ahead | endPhases constraint ahead =>
    refine Or.inl ?_
    rw [ahead.sleeps]
    decide

lemma Step.idle {screen : Option Bool} {delivery : Delivery}
    (hstep : Step policy rig delivery after) (h : rig.machine.Idle screen) :
    after.machine.Idle screen := by
  obtain ⟨hscreenOn, hcharging⟩ := hstep.senses
  refine ⟨hscreenOn.trans h.screen, fun hasleep => ?_⟩
  rw [hscreenOn, hcharging]
  rcases hstep.asleep hasleep with hasleep | hidle
  · exact h.off hasleep
  · simp only [mayGoDark, Bool.and_eq_true, Bool.not_eq_true'] at hidle
    exact ⟨hidle.1.2, hidle.2⟩

/-- Whether the message tells that the device is in use. -/
def tellsUse (message : Message) : Prop :=
  message.reports Action.screenOn = true ∨ message.reports Action.charging = true

lemma wakeUp_awake (judge : Constraint σ) (policy : Policy) (rig : Rig σ) :
    (rig.wakeUp judge policy).machine.current = .working ∧
      (rig.wakeUp judge policy).machine.blocked = false := by
  unfold wakeUp
  split
  · rename_i hawake
    simpa using hawake
  · have hentered := entered_working policy { rig with
      constraint := if judge.isEvaluating rig.constraint then judge.stop rig.constraint
        else rig.constraint
      machine := { rig.machine with awaited := none } }
    exact ⟨hentered.current, hentered.unblocked⟩

/-- A device in use is awake, even if no timer can be armed. -/
lemma handleEvent_of_tellsUse (judge : Constraint σ) (policy : Policy) (rig : Rig σ)
    {message : Message} (huse : tellsUse message) :
    (rig.handleEvent judge policy message).machine.current = .working ∧
      (rig.handleEvent judge policy message).machine.blocked = false := by
  have hkind : message.kind = .commonEvent := by
    rcases huse with huse | huse <;> simp [Message.reports] at huse <;> exact huse.1
  unfold handleEvent
  rw [hkind]
  dsimp only
  split
  · exact wakeUp_awake judge policy _
  · rename_i hoff
    have haction : message.action = some Action.charging := by
      rcases huse with huse | huse
      · simp [Message.reports] at huse
        exact absurd huse.2 hoff
      · simp [Message.reports] at huse
        exact huse.2
    rw [if_pos haction]
    exact wakeUp_awake judge policy _

/-- A message is noted before anything is done, and a device in use is awake after it. -/
lemma idle_handleEvent (judge : Constraint σ) (policy : Policy) {screen : Option Bool}
    (h : rig.machine.Idle screen) (message : Message) :
    (rig.handleEvent judge policy message).machine.Idle
      (MachineRun.screenAfter screen (.handle message : MachineMove σ)) := by
  have hstep := step_handleEvent judge policy message rig
  have hscreen : (rig.noted message).machine.screenOn =
      (MachineRun.screenAfter screen (.handle message : MachineMove σ)).getD true := by
    unfold noted MachineRun.screenAfter
    dsimp only
    rw [h.screen]
    split
    · rfl
    · split <;> rfl
  -- What is noted may not fit the state yet; then it is the message that wakes the machine.
  by_cases huse : tellsUse message
  · refine ⟨hstep.senses.1.trans hscreen, fun hasleep => absurd ?_ hasleep⟩
    exact (handleEvent_of_tellsUse judge policy rig huse).1
  · refine hstep.idle ⟨hscreen, fun hasleep => ?_⟩
    obtain ⟨hon, hcharging⟩ := not_or.1 huse
    obtain ⟨hoff, huncharged⟩ := h.off hasleep
    unfold noted
    dsimp only
    rw [if_neg hon, if_neg hcharging, hoff, huncharged, ite_self, ite_self]
    exact ⟨rfl, rfl⟩

/-! ## The timers of the machine -/

/-- The machine remembers all timers of its own that are armed. -/
def Owns (rig : Rig σ) : Prop :=
  ∀ timer ∈ rig.host.timers.pending,
    (∀ source, timer.task = .transitNextState source → rig.machine.stateTimer = some timer.id) ∧
    (∀ state, timer.task = .transitNextPhase state →
      rig.machine.phaseTimer = some timer.id ∧ state = rig.machine.current)

/-- No timer of the machine is armed. -/
def Unarmed (host : Host) : Prop := ∀ timer ∈ host.timers.pending, timer.task.ofMachine = false

namespace Owns

lemma of_unarmed (h : Unarmed rig.host) : rig.Owns := by
  intro timer hmem
  have hforeign := h timer hmem
  refine ⟨fun source htask => ?_, fun state htask => ?_⟩ <;>
    rw [htask] at hforeign <;> cases hforeign

/-- If the machine remembers no timers, none are armed. -/
lemma unarmed (h : rig.Owns) (hstate : rig.machine.stateTimer = none)
    (hphase : rig.machine.phaseTimer = none) : Unarmed rig.host := by
  intro timer hmem
  obtain ⟨hown, hownPhase⟩ := h timer hmem
  rw [hstate] at hown
  rw [hphase] at hownPhase
  cases htask : timer.task with
  | transitNextState source => cases hown source htask
  | transitNextPhase state => cases (hownPhase state htask).1
  | revokeExpired | dayNightSwitch => rfl

lemma congr (h : rig.Owns) (hpending : after.host.timers.pending = rig.host.timers.pending)
    (hstate : after.machine.stateTimer = rig.machine.stateTimer)
    (hphase : after.machine.phaseTimer = rig.machine.phaseTimer)
    (hcurrent : after.machine.current = rig.machine.current) : after.Owns := by
  unfold Owns
  rw [hpending, hstate, hphase, hcurrent]
  exact h

/-- All timers of the machine can be cancelled. -/
lemma unarmed_cancelTimers (h : rig.Owns) : Unarmed rig.cancelTimers.host := by
  intro timer hmem
  obtain ⟨hmem, hstate, hphase⟩ := rig.mem_cancelTimers.1 hmem
  obtain ⟨hown, hownPhase⟩ := h timer hmem
  cases htask : timer.task with
  | transitNextState source => exact absurd (hown source htask) hstate
  | transitNextPhase state => exact absurd (hownPhase state htask).1 hphase
  | revokeExpired | dayNightSwitch => rfl

end Owns

lemma Entered.owns {before : Rig σ} {next : State} (h : Entered policy next before after)
    (howns : before.Owns) : after.Owns := by
  intro timer hmem
  rw [h.current]
  rcases h.pending timer hmem with hold | ⟨hid, hnew⟩ | ⟨hid, hnew⟩
  · have hforeign := howns.unarmed_cancelTimers timer hold
    refine ⟨fun source htask => ?_, fun state htask => ?_⟩ <;>
      rw [htask] at hforeign <;> cases hforeign
  · refine ⟨fun _ _ => hid, fun state htask => ?_⟩
    rw [hnew] at htask
    cases htask
  · refine ⟨fun source htask => ?_, fun state htask => ?_⟩ <;> rw [hnew] at htask <;> cases htask
    exact ⟨hid, rfl⟩

lemma Settled.owns (h : Settled rig after) (hnone : rig.machine.phaseTimer = none)
    (howns : rig.Owns) : after.Owns := by
  intro timer hmem
  have hstate : after.machine.stateTimer = rig.machine.stateTimer := by rw [h.machine]
  have hcurrent : after.machine.current = rig.machine.current := by rw [h.machine]
  rw [hstate, hcurrent]
  rcases h.pending timer hmem with hold | ⟨hid, hnew⟩
  · obtain ⟨hown, hownPhase⟩ := howns timer hold
    refine ⟨hown, fun state htask => ?_⟩
    have hphase := (hownPhase state htask).1
    rw [hnone] at hphase
    cases hphase
  · refine ⟨fun source htask => ?_, fun state htask => ?_⟩ <;> rw [hnew] at htask <;> cases htask
    exact ⟨hid, rfl⟩

lemma owns_enterOrBlock {before : Rig σ} (policy : Policy) (next : State) (h : before.Owns) :
    (before.enterOrBlock policy next).Owns := by
  rcases enterOrBlock_cases policy next before with ⟨-, -, hrefused⟩ | hentered
  · rw [hrefused]
    refine .of_unarmed ?_
    unfold Unarmed
    rw [block_timers]
    exact h.unarmed_cancelTimers
  · exact hentered.owns h

/-- The state timer may be forgotten once it is not armed any more. -/
lemma Owns.cleared (h : rig.Owns) (constraint : σ)
    (hgone : ∀ id task, rig.stateDelivery = some (id, task) →
      ∀ timer ∈ rig.host.timers.pending, timer.id ≠ id) : (rig.cleared constraint).Owns := by
  intro timer hmem
  obtain ⟨hown, hownPhase⟩ := h timer hmem
  refine ⟨fun source htask => ?_, hownPhase⟩
  have hdelivery : rig.stateDelivery = some (timer.id, .transitNextState rig.machine.current) := by
    rw [stateDelivery, hown source htask]
    rfl
  exact absurd rfl (hgone _ _ hdelivery timer hmem)

/-- The phase timer may be forgotten once it is not armed any more. -/
lemma Owns.lulled (h : rig.Owns) (constraint : σ)
    (hgone : ∀ id task, rig.phaseDelivery = some (id, task) →
      ∀ timer ∈ rig.host.timers.pending, timer.id ≠ id) : (rig.lulled constraint).Owns := by
  intro timer hmem
  obtain ⟨hown, hownPhase⟩ := h timer hmem
  refine ⟨hown, fun state htask => ?_⟩
  have hdelivery : rig.phaseDelivery = some (timer.id, .transitNextPhase rig.machine.current) := by
    rw [phaseDelivery, (hownPhase state htask).1]
    rfl
  exact absurd rfl (hgone _ _ hdelivery timer hmem)

lemma Owns.ready {prepared : Rig σ} {constraint : σ}
    (hready : prepared = rig.cleared constraint ∨ prepared = (rig.cleared constraint).acquireLock)
    (h : (rig.cleared constraint).Owns) : prepared.Owns := by
  rcases hready with rfl | rfl
  · exact h
  · refine h.congr (by rw [acquireLock_timers]) ?_ ?_ ?_ <;> rw [acquireLock_machine]

/-- A step in which no timer is delivered that is still armed keeps all armed timers known. -/
lemma Step.owns {delivery : Delivery}
    (hstep : Step policy rig delivery after) (h : rig.Owns)
    (hgone : ∀ id task, delivery = some (id, task) →
      ∀ timer ∈ rig.host.timers.pending, timer.id ≠ id) : after.Owns := by
  cases hstep with
  | rest => exact h
  | wake constraint => exact owns_enterOrBlock policy .working (h.congr rfl rfl rfl rfl)
  | dark idle => exact owns_enterOrBlock policy .dark h
  | retry blocked =>
    rcases retry_cases policy rig with ⟨-, hrefused⟩ | hentered
    · rw [hrefused]
      exact .of_unarmed h.unarmed_cancelTimers
    · exact hentered.owns h
  | depart constraint ready leads =>
    exact owns_enterOrBlock policy _ (.ready ready (h.cleared constraint hgone))
  | refuse constraint ready leads asked =>
    refine (Owns.ready ready (h.cleared constraint hgone)).congr (by rw [block_timers]) ?_ ?_ ?_ <;>
      rw [block_machine]
  | await constraint ready leads asked unblocked =>
    exact (Owns.ready (Or.inr ready) (h.cleared constraint hgone)).congr rfl rfl rfl rfl
  | phase constraint ahead =>
    refine (settled_enterPhase _ _).owns rfl ?_
    exact (h.lulled constraint hgone).congr (by rw [phased, Host.announce_timers]) rfl rfl rfl
  | awaitPhase constraint ahead => exact (h.lulled constraint hgone).congr rfl rfl rfl rfl
  | endPhases constraint ahead =>
    refine (h.lulled constraint hgone).congr (by rw [releaseLock_timers]) ?_ ?_ ?_ <;>
      rw [releaseLock_machine]

lemma owns_refusePhase (h : rig.Owns) : rig.refusePhase.Owns := by
  unfold refusePhase
  split
  · exact h
  · rename_i id hid
    intro timer hmem
    rw [releaseLock_timers] at hmem
    obtain ⟨hmem, hkept⟩ := List.mem_filter.1 hmem
    obtain ⟨hown, hownPhase⟩ := h timer hmem
    rw [releaseLock_machine]
    refine ⟨hown, fun state htask => ?_⟩
    obtain ⟨hphase, rfl⟩ := hownPhase state htask
    rw [hid, Option.some.injEq] at hphase
    simp [hphase, htask] at hkept

variable {judge : Constraint σ}

/-- Whatever happens, all armed timers of the machine stay known. -/
lemma Owns.moved (h : rig.Owns) (hsound : rig.machine.Sound) {move : MachineMove σ}
    (hfires : ∀ id task, move = .deliver id task →
      ∀ timer ∈ rig.host.timers.pending, timer.id ≠ id) :
    (rig.moved judge policy move).Owns := by
  cases move with
  | handle message =>
    exact (step_handleEvent judge policy message rig).owns (h.congr rfl rfl rfl rfl)
      (fun id task hdelivery => by cases hdelivery)
  | deliver id task =>
    refine (step_onTimer judge policy hsound id task).owns h (fun other otherTask hdelivery => ?_)
    cases hdelivery
    exact hfires id task rfl
  | answer passed =>
    exact (step_endEvaluation policy hsound passed).owns h
      (fun id task hdelivery => by cases hdelivery)
  | init => exact .of_unarmed h.unarmed_cancelTimers
  | uninit =>
    refine .of_unarmed ?_
    unfold Unarmed Rig.moved uninit
    rw [releaseLock_timers]
    exact h.unarmed_cancelTimers
  | refusePhase => exact owns_refusePhase h
  | host move => exact fun timer hmem => h timer (Host.mem_moved_pending hmem)
  | reload | think => exact h.congr rfl rfl rfl rfl

end Rig

/-! ## Runs -/

namespace MachineRun

variable {σ : Type} {judge : Constraint σ} {policy : Policy} {host : Host} {constraint : σ}
  {run : MachineRun σ}

/-- A timer is delivered only when it is not armed any more. -/
def Fires (run : MachineRun σ) (move : MachineMove σ) : Prop :=
  ∀ id task, move = .deliver id task → ∀ timer ∈ run.rig.host.timers.pending, timer.id ≠ id

instance (run : MachineRun σ) (move : MachineMove σ) : Decidable (run.Fires move) :=
  match move with
  | .deliver id _ => decidable_of_iff (∀ timer ∈ run.rig.host.timers.pending, timer.id ≠ id)
      ⟨fun h _ _ hmove => by cases hmove; exact h, fun h => h id _ rfl⟩
  | .handle _ | .answer _ | .init | .uninit | .refusePhase | .host _ | .reload _ | .think _ =>
    isTrue fun _ _ hmove => by cases hmove

lemma idle_after (h : run.rig.machine.Idle run.screen) (hsound : run.rig.machine.Sound)
    (move : MachineMove σ) :
    (run.after judge move).rig.machine.Idle (run.after judge move).screen := by
  cases move with
  | handle message => exact Rig.idle_handleEvent judge run.policy h message
  | deliver id task => exact (Rig.step_onTimer judge run.policy hsound id task).idle h
  | answer passed => exact (Rig.step_endEvaluation run.policy hsound passed).idle h
  | init => exact ⟨h.screen, fun hasleep => absurd rfl hasleep⟩
  | uninit =>
    show run.rig.uninit.machine.Idle run.screen
    rw [Rig.uninit_machine]
    exact ⟨h.screen, h.off⟩
  | refusePhase =>
    show run.rig.refusePhase.machine.Idle run.screen
    rw [Rig.refusePhase_machine]
    exact ⟨h.screen, h.off⟩
  | host | reload | think => exact h

namespace Reachable

variable {Allows : MachineRun σ → MachineMove σ → Prop}

lemma idle (h : Reachable judge Allows (.start ⟨{}, host, constraint⟩ policy) run) :
    run.rig.machine.Idle run.screen := by
  induction h with
  | start => exact ⟨rfl, fun hasleep => absurd rfl hasleep⟩
  | move reached _ ih => exact idle_after ih reached.sound _

lemma owns (hunarmed : Rig.Unarmed host)
    (h : Reachable judge Fires (.start ⟨{}, host, constraint⟩ policy) run) : run.rig.Owns := by
  induction h with
  | start => exact .of_unarmed hunarmed
  | move reached allowed ih => exact ih.moved reached.sound allowed

end Reachable

end MachineRun

/-- In a run of a new machine, whatever happens, if the machine is in any other state than working
then the last message about the screen was that it is off, and the machine takes the screen to be
off and no charger to be connected.

And wherever the run is, a message that the screen is on or that the device is charging brings the
machine to working, not blocked, in phase zero; no answer is awaited, none of its timers is armed,
and the end of the nap is forgotten.  If the machine did not hold the wake lock whenever it was
started, it does not hold it then either.  Timers fire before they are delivered, and at the start
none of a machine are armed; apart from that anything may happen, timers that cannot be armed
included. -/
theorem no_standby_while_in_use {σ : Type} {judge : Constraint σ} {host : Host} {constraint : σ}
    {policy : Policy} {run : MachineRun σ} (hunarmed : Rig.Unarmed host)
    (h : MachineRun.Reachable judge MachineRun.Fires (.start ⟨{}, host, constraint⟩ policy) run) :
    (run.rig.machine.current ≠ .working → run.screen = some false ∧
      run.rig.machine.screenOn = false ∧ run.rig.machine.charging = false) ∧
    ∀ message, Rig.tellsUse message →
      (run.after judge (.handle message)).rig.machine.current = .working ∧
      (run.after judge (.handle message)).rig.machine.blocked = false ∧
      (run.after judge (.handle message)).rig.machine.phase = 0 ∧
      (run.after judge (.handle message)).rig.machine.awaited = none ∧
      Rig.Unarmed (run.after judge (.handle message)).rig.host ∧
      (run.after judge (.handle message)).rig.machine.napDeadline = none ∧
      (run.orderly = true →
        (run.after judge (.handle message)).rig.machine.lockHeld = false) := by
  constructor
  · intro hasleep
    obtain ⟨hscreen, hoff⟩ := h.idle
    obtain ⟨hscreenOn, hcharging⟩ := hoff hasleep
    rw [hscreenOn] at hscreen
    refine ⟨?_, hscreenOn, hcharging⟩
    cases hlast : run.screen with
    | none =>
      rw [hlast] at hscreen
      cases hscreen
    | some on =>
      rw [hlast] at hscreen
      exact congrArg some hscreen.symm
  · intro message huse
    obtain ⟨hworking, hfree⟩ := Rig.handleEvent_of_tellsUse judge run.policy run.rig huse
    have hafter : MachineRun.Reachable judge MachineRun.Fires (.start ⟨{}, host, constraint⟩ policy)
        (run.after judge (.handle message)) := h.move (fun id task hmove => by cases hmove)
    have hsound := hafter.sound
    have hawake : (run.after judge (.handle message)).rig.machine.current ≠ .sleep := by
      rw [show (run.after judge (.handle message)).rig.machine.current = .working from hworking]
      decide
    refine ⟨hworking, hfree, hsound.phase_eq_zero hawake, hsound.awaited_eq_none hworking, ?_,
      hsound.working hworking, fun horderly => ?_⟩
    · exact (hafter.owns hunarmed).unarmed (hsound.stateTimer_eq_none hworking)
        (hsound.phaseTimer_eq_none hawake)
    · exact (hafter.holds horderly).lockHeld_eq_false hsound (Or.inr hworking)

lemma MachineRun.reachable_atDusk : Reachable Probe.constraint Fires
    (.start ⟨{}, {}, { script := some .pending }⟩ (Policy.default {})) atDusk := by
  refine .move (.move (.move .start ?_) ?_) ?_
  · exact fun id task hmove => by cases hmove
  · exact fun id task hmove => by cases hmove
  · intro id task hmove
    cases hmove
    decide +kernel

/-- At dusk the screen is off; and although an answer is awaited and the lock is held, nothing of
this is left once the screen is on. -/
theorem no_standby_while_in_use_at_dusk :
    MachineRun.atDusk.rig.machine.current = .dark ∧ MachineRun.atDusk.screen = some false ∧
    (MachineRun.atDusk.after Probe.constraint
      (.handle (.event Action.screenOn))).rig.machine.current = .working ∧
    (MachineRun.atDusk.after Probe.constraint
      (.handle (.event Action.screenOn))).rig.machine.lockHeld = false := by
  obtain ⟨hasleep, huse⟩ :=
    no_standby_while_in_use (fun timer hmem => by cases hmem) MachineRun.reachable_atDusk
  obtain ⟨hworking, -, -, -, -, -, hfree⟩ :=
    huse (.event Action.screenOn) (Or.inl (by decide +kernel))
  exact ⟨by decide +kernel, (hasleep (by decide +kernel)).1, hworking, hfree (by decide +kernel)⟩

/-- A machine that was started once more at dusk works already when the screen is switched on, so it
is left as it is, and holds the lock. -/
theorem lock_outlasts_use_after_start :
    let run := MachineRun.atDusk.after Probe.constraint .init
    MachineRun.Reachable Probe.constraint MachineRun.Fires
        (.start ⟨{}, {}, { script := some .pending }⟩ (Policy.default {})) run ∧
      Rig.tellsUse (.event Action.screenOn) ∧
      (run.after Probe.constraint (.handle (.event Action.screenOn))).rig.machine.current =
        .working ∧
      (run.after Probe.constraint (.handle (.event Action.screenOn))).rig.machine.lockHeld =
        true := by
  intro run
  refine ⟨.move MachineRun.reachable_atDusk (fun id task hmove => by cases hmove),
    Or.inl (by decide +kernel), ?_, ?_⟩
  all_goals decide +kernel

end DeviceStandby
