import DeviceStandby.Proofs.FailedTransitions

/-!
# The phases of sleep

Sleep is walked through phase by phase.  A step leaves the machine where it is, or takes it to the
next phase, which is told; or it takes the machine to another state, and that begins with the first
phase (`Rig.Walks`).  So what was told in one stay in sleep is the list of the phases up to the
present one (`phaseSteps`), however the machine was vetoed, blocked or kept waiting meanwhile.
-/

namespace DeviceStandby

/-- The messages about the phases of a sleep, up to a phase. -/
def phaseSteps (phase : Nat) : List Task :=
  (List.range phase).map (fun previous => .message (.phaseTransit .sleep previous (previous + 1)))

lemma phaseSteps_succ (phase : Nat) : phaseSteps (phase + 1) =
    phaseSteps phase ++ [.message (.phaseTransit .sleep phase (phase + 1))] := by
  rw [phaseSteps, List.range_succ, List.map_append]
  rfl

namespace Rig

variable {σ : Type} {judge : Constraint σ} {policy : Policy} {rig before after : Rig σ}

/-! ## Steps -/

/-- The machine is in the same phase of the same state; or it sleeps and has entered the next phase
and told of it; or it is in another state, in the first phase. -/
inductive Walks (rig after : Rig σ) : Prop where
  | stays (current : after.machine.current = rig.machine.current)
      (phase : after.machine.phase = rig.machine.phase) (queue : after.host.queue = rig.host.queue)
  | advances (current : after.machine.current = rig.machine.current)
      (sleeps : rig.machine.current = .sleep) (phase : after.machine.phase = rig.machine.phase + 1)
      (queue : after.host.queue = (rig.host.announce
        (.phaseTransit rig.machine.current rig.machine.phase (rig.machine.phase + 1))).queue)
  | leaves (current : after.machine.current ≠ rig.machine.current)
      (phase : after.machine.phase = 0)

/-- What went before does not count if the machine has stayed where it was. -/
lemma Walks.of_stays (h : before.Walks after)
    (hcurrent : before.machine.current = rig.machine.current)
    (hphase : before.machine.phase = rig.machine.phase)
    (hqueue : before.host.queue = rig.host.queue) : rig.Walks after := by
  cases h with
  | stays current phase queue =>
    exact .stays (current.trans hcurrent) (phase.trans hphase) (queue.trans hqueue)
  | advances current sleeps phase queue =>
    rw [hcurrent, hphase] at queue
    exact .advances (current.trans hcurrent) (hcurrent ▸ sleeps) (hphase ▸ phase)
      (queue.trans (Host.announce_queue_congr _ _ hqueue))
  | leaves current phase => exact .leaves (hcurrent ▸ current) phase

lemma Entered.walks {next : State} (h : Entered policy next rig after) : rig.Walks after := by
  have hphase := h.phase
  have hqueue := h.queue
  by_cases hsame : rig.machine.current = next
  · rw [if_pos hsame] at hphase hqueue
    exact .stays (h.current.trans hsame.symm) hphase hqueue
  · rw [if_neg hsame] at hphase
    exact .leaves (fun hcurrent => hsame (hcurrent.symm.trans h.current)) hphase

lemma walks_enterOrBlock (policy : Policy) (next : State) (rig : Rig σ) :
    rig.Walks (rig.enterOrBlock policy next) := by
  rcases enterOrBlock_cases policy next rig with ⟨-, -, hrefused⟩ | hentered
  · rw [hrefused]
    exact .stays (by rw [block_machine, cancelTimers_machine])
      (by rw [block_machine, cancelTimers_machine]) (by rw [block_queue, cancelTimers_queue])
  · exact hentered.walks

/-- A step walks on by one phase at most. -/
theorem Step.walks {delivery : Delivery} (hstep : Step policy rig delivery after) :
    rig.Walks after := by
  cases hstep with
  | rest => exact .stays rfl rfl rfl
  | wake constraint => exact (walks_enterOrBlock policy .working _).of_stays rfl rfl rfl
  | dark idle => exact walks_enterOrBlock policy .dark rig
  | retry blocked =>
    rcases retry_cases policy rig with ⟨-, hrefused⟩ | hentered
    · rw [hrefused]
      exact .stays rfl rfl rig.cancelTimers_queue
    · exact hentered.walks
  | depart constraint ready leads =>
    obtain ⟨hmachine, -, hqueue, -⟩ := ready_frame ready
    exact (walks_enterOrBlock policy _ _).of_stays (by rw [hmachine]) (by rw [hmachine]) hqueue
  | refuse constraint ready leads asked =>
    obtain ⟨hmachine, -, hqueue, -⟩ := ready_frame ready
    exact .stays (by rw [block_machine, hmachine]) (by rw [block_machine, hmachine])
      (by rw [block_queue, hqueue])
  | await constraint ready leads asked unblocked =>
    obtain ⟨hmachine, -, hqueue, -⟩ := ready_frame (Or.inr ready)
    exact .stays (by rw [hmachine]) (by rw [hmachine]) hqueue
  | phase constraint ahead =>
    have hsettled := settled_enterPhase (rig.machine.phase + 1) (rig.lulled constraint)
    refine .advances ?_ ahead.sleeps ?_ hsettled.queue
    all_goals
      rw [hsettled.machine]
      rfl
  | awaitPhase constraint ahead => exact .stays rfl rfl rfl
  | endPhases constraint ahead =>
    exact .stays (by rw [releaseLock_machine]; rfl) (by rw [releaseLock_machine]; rfl)
      (releaseLock_queue _)

/-- Whatever happens but to the host, a sound machine walks on by one phase at most. -/
lemma walks_moved (judge : Constraint σ) (policy : Policy) (hsound : rig.machine.Sound)
    {move : MachineMove σ} (hmove : ∀ other, move ≠ .host other) :
    rig.Walks (rig.moved judge policy move) := by
  cases move with
  | handle message =>
    exact (step_handleEvent judge policy message rig).walks.of_stays rfl rfl rfl
  | deliver id task => exact (step_onTimer judge policy hsound id task).walks
  | answer passed => exact (step_endEvaluation policy hsound passed).walks
  | init =>
    by_cases hworking : rig.machine.current = .working
    · exact .stays hworking.symm (hsound.phase_eq_zero (by rw [hworking]; decide)).symm
        rig.cancelTimers_queue
    · exact .leaves (Ne.symm hworking) rfl
  | uninit =>
    refine .stays ?_ ?_ ((releaseLock_queue _).trans rig.cancelTimers_queue)
    all_goals rw [moved, uninit_machine]
  | refusePhase =>
    refine .stays ?_ ?_ rig.refusePhase_queue
    all_goals rw [moved, refusePhase_machine]
  | host other => exact absurd rfl (hmove other)
  | reload | think => exact .stays rfl rfl rfl

/-- A change of state begins with the first phase. -/
lemma phase_of_changed (hsound : rig.machine.Sound) (move : MachineMove σ)
    (hchanged : (rig.moved judge policy move).machine.current ≠ rig.machine.current) :
    (rig.moved judge policy move).machine.phase = 0 := by
  have hmove : ∀ other, move ≠ .host other := by
    rintro other rfl
    exact hchanged rfl
  cases walks_moved judge policy hsound hmove with
  | stays current | advances current => exact absurd current hchanged
  | leaves current phase => exact phase

end Rig

/-! ## A stay in sleep -/

namespace MachineRun

variable {σ : Type} {judge : Constraint σ} {run later : MachineRun σ} {tasks : List Task}

/-- Whether the machine sleeps after the move, and messages can be posted as before. -/
def SleepsOn (judge : Constraint σ) (run : MachineRun σ) (move : MachineMove σ) : Prop :=
  (run.after judge move).rig.machine.current = .sleep ∧ move ≠ .host (.fail .post true)

/-- The machine sleeps, and after these tasks nothing was told but its phases. -/
structure Asleep (tasks : List Task) (run : MachineRun σ) : Prop where
  sound : run.rig.machine.Sound
  sleeps : run.rig.machine.current = .sleep
  posting : run.rig.host.queue.failing = false
  told : run.rig.host.queue.tasks = tasks ++ phaseSteps run.rig.machine.phase

/-- Each move of a stay in sleep tells of the phase that it enters, and of nothing else. -/
lemma Asleep.after (h : run.Asleep tasks) {move : MachineMove σ}
    (hmove : run.SleepsOn judge move) : (run.after judge move).Asleep tasks := by
  obtain ⟨hsleeps, hpost⟩ := hmove
  have hsound : (run.after judge move).rig.machine.Sound := Rig.sound_moved h.sound move
  by_cases hhost : ∃ other, move = .host other
  · obtain ⟨other, rfl⟩ := hhost
    exact ⟨hsound, hsleeps, Host.moved_posting h.posting (fun heq => hpost (congrArg _ heq)),
      (Host.moved_tasks other).trans h.told⟩
  · cases Rig.walks_moved judge run.policy h.sound (fun other heq => hhost ⟨other, heq⟩) with
    | stays current phase queue =>
      refine ⟨hsound, hsleeps, (congrArg TaskQueue.failing queue).trans h.posting, ?_⟩
      refine (congrArg TaskQueue.tasks queue).trans (h.told.trans ?_)
      exact congrArg (fun phase => tasks ++ phaseSteps phase) phase.symm
    | advances current sleeps phase queue =>
      have htasks := (congrArg TaskQueue.tasks queue).trans (Host.announce_tasks _ _ h.posting)
      rw [h.told, sleeps, List.append_assoc, ← phaseSteps_succ] at htasks
      refine ⟨hsound, hsleeps, ?_, htasks.trans ?_⟩
      · exact ((congrArg TaskQueue.failing queue).trans (Host.announce_failing _ _)).trans h.posting
      · exact congrArg (fun phase => tasks ++ phaseSteps phase) phase.symm
    | leaves current phase => exact absurd (hsleeps.trans h.sleeps.symm) current

/-- All that is told in a stay in sleep are its phases. -/
theorem Reachable.asleep (h : Reachable judge (SleepsOn judge) run later)
    (hasleep : run.Asleep tasks) : later.Asleep tasks := by
  induction h with
  | start => exact hasleep
  | move _ allowed ih => exact ih.after allowed

end MachineRun

/-- The screen is off, and the time for sleep has come. -/
def MachineRun.bedtime : MachineRun Probe :=
  (start ⟨{}, {}, { script := some .pass }⟩ Policy.napless).afterAll Probe.constraint
    [.handle (.event Action.screenOff), .host (.advance 300000)]

/-- The device begins to sleep. -/
def MachineRun.fallingAsleep : MachineRun Probe :=
  bedtime.after Probe.constraint (.deliver 1 (.transitNextState .dark))

end DeviceStandby
