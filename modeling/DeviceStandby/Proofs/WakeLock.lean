import DeviceStandby.Proofs.MachineRuns

/-!
# The wake lock

The machine takes the wake lock in one place, before a transition, and lets it go in many.  It does
so through `Rig.acquireLock` and `Rig.releaseLock` only, and each of these keeps account
(`Rig.Balanced`): so the account is right not only after a step but at every point of it.

The lock is kept after a step for two reasons only: an answer is awaited, or in sleep a timer for
the next phase is armed (`Machine.Justified`).  A start is no such step: it sets the machine back but
leaves the lock, so a machine that holds it has to be stopped first (`started_machine_keeps_lock`).
-/

namespace DeviceStandby

namespace Rig

variable {σ : Type} {policy : Policy} {rig after : Rig σ}

/-! ## The account -/

/-- The wake lock can be taken; it was never let go before it was taken, nor taken twice before it
was let go, and it was taken once more than let go while it is held. -/
structure Balanced (rig : Rig σ) : Prop where
  works : rig.host.wakeLock.failAcquire = false
  turns : ∀ earlier, earlier <+: rig.host.wakeLock.calls →
    earlier.count .release ≤ earlier.count .acquire ∧
      earlier.count .acquire ≤ earlier.count .release + 1
  calls : rig.host.wakeLock.acquires =
    rig.host.wakeLock.releases + if rig.machine.lockHeld then 1 else 0

namespace Balanced

lemma congr (h : rig.Balanced) (hlock : after.host.wakeLock = rig.host.wakeLock)
    (hheld : after.machine.lockHeld = rig.machine.lockHeld) : after.Balanced := by
  refine ⟨?_, ?_, ?_⟩
  · rw [hlock]
    exact h.works
  · rw [hlock]
    exact h.turns
  · rw [hlock, hheld]
    exact h.calls

/-- One more call keeps the account if it agrees with whether the lock is held then. -/
lemma receive (h : rig.Balanced) (call : LockCall) (held : Bool)
    (hcalls : (rig.host.wakeLock.receive call).acquires =
      (rig.host.wakeLock.receive call).releases + if held then 1 else 0) :
    Balanced { rig with
      host := { rig.host with wakeLock := rig.host.wakeLock.receive call }
      machine := { rig.machine with lockHeld := held } } := by
  refine ⟨h.works, fun earlier hearlier => ?_, hcalls⟩
  rcases List.prefix_concat_iff.1 hearlier with rfl | hearlier
  · have hcounts : (rig.host.wakeLock.calls ++ [call]).count .acquire =
        (rig.host.wakeLock.calls ++ [call]).count .release + if held then 1 else 0 := hcalls
    split at hcounts
    · omega
    · omega
  · exact h.turns earlier hearlier

lemma acquireLock (h : rig.Balanced) : rig.acquireLock.Balanced := by
  unfold Rig.acquireLock
  split
  · exact h
  · rename_i hfree
    have hcalls := h.calls
    rw [if_neg hfree] at hcalls
    rw [Host.acquire, h.works]
    refine h.receive .acquire true ?_
    simpa [WakeLock.acquires, WakeLock.releases, WakeLock.receive] using hcalls

lemma releaseLock (h : rig.Balanced) : rig.releaseLock.Balanced := by
  unfold Rig.releaseLock
  split
  · rename_i hheld
    have hcalls := h.calls
    rw [if_pos hheld] at hcalls
    refine h.receive .release false ?_
    simpa [WakeLock.acquires, WakeLock.releases, WakeLock.receive] using hcalls
  · exact h

lemma cancelTimers (h : rig.Balanced) : rig.cancelTimers.Balanced :=
  h.congr (by simp [Rig.cancelTimers]) rfl

lemma armPhaseTimer (h : rig.Balanced) : rig.armPhaseTimer.Balanced := by
  have hlock := rig.host.arm_wakeLock 0 (.transitNextPhase rig.machine.current)
  unfold Rig.armPhaseTimer
  split
  · rename_i harm
    rw [harm] at hlock
    exact h.congr hlock rfl
  · rename_i harm
    rw [harm] at hlock
    exact releaseLock (h.congr hlock rfl)

lemma arrive (h : rig.Balanced) (previous : State) : (Rig.arrive previous rig).Balanced := by
  unfold Rig.arrive
  dsimp only
  split
  · exact h.releaseLock
  · split
    · exact armPhaseTimer (h.congr (by simp) rfl)
    · exact releaseLock (h.congr (by simp) rfl)

lemma enter (h : rig.Balanced) (policy : Policy) (next : State) :
    (rig.enter policy next).2.Balanced := by
  unfold Rig.enter
  dsimp only
  split
  · refine arrive ?_ _
    exact h.cancelTimers.congr rfl rfl
  · rename_i delay target _
    have hlock := rig.cancelTimers.host.arm_wakeLock delay (.transitNextState next)
    split
    · rename_i harm
      rw [harm] at hlock
      exact h.cancelTimers.congr hlock rfl
    · rename_i harm
      rw [harm] at hlock
      refine arrive ?_ _
      exact h.cancelTimers.congr hlock rfl

lemma block (h : rig.Balanced) : rig.block.Balanced := releaseLock (h.congr rfl rfl)

lemma enterOrBlock (h : rig.Balanced) (policy : Policy) (next : State) :
    (rig.enterOrBlock policy next).Balanced := by
  have hentered := h.enter policy next
  unfold Rig.enterOrBlock
  split
  · rename_i hresult
    rw [hresult] at hentered
    exact hentered
  · rename_i hresult
    rw [hresult] at hentered
    exact hentered.block

lemma enterPhase (h : rig.Balanced) (next : Nat) : (rig.enterPhase next).Balanced := by
  unfold Rig.enterPhase
  dsimp only
  split
  · exact releaseLock (h.congr (by simp) rfl)
  · exact armPhaseTimer (h.congr (by simp) rfl)

end Balanced

/-- Every step keeps account of the wake lock. -/
lemma Step.balanced {delivery : Delivery}
    (hstep : Step policy rig delivery after) (h : rig.Balanced) : after.Balanced := by
  have hready : ∀ {prepared : Rig σ} {constraint : σ},
      prepared = rig.cleared constraint ∨ prepared = (rig.cleared constraint).acquireLock →
      prepared.Balanced := by
    rintro prepared constraint (rfl | rfl)
    · exact h.congr rfl rfl
    · exact Balanced.acquireLock (h.congr rfl rfl)
  cases hstep with
  | rest => exact h
  | wake constraint => 
    refine Balanced.enterOrBlock ?_ policy .working
    exact h.congr rfl rfl
  | dark idle => exact h.enterOrBlock policy .dark
  | retry blocked => exact h.enter policy _
  | depart constraint ready leads => exact (hready ready).enterOrBlock policy _
  | refuse constraint ready leads asked => exact (hready ready).block
  | await constraint ready leads asked unblocked => exact (hready (Or.inr ready)).congr rfl rfl
  | phase constraint ahead => 
    refine Balanced.enterPhase ?_ _
    exact h.congr rfl rfl
  | awaitPhase constraint ahead => exact h.congr rfl rfl
  | endPhases constraint ahead => exact Balanced.releaseLock (h.congr rfl rfl)

end Rig

/-! ## The reasons -/

namespace Machine

/-- The wake lock is held only while an answer is awaited or a phase timer is armed. -/
def Justified (m : Machine) : Prop :=
  m.lockHeld = true → m.awaited.isSome = true ∨ m.phaseTimer.isSome = true

variable {m : Machine}

/-- Neither a blocked machine nor one that works has a reason to hold the lock. -/
lemma Justified.lockHeld_eq_false (h : m.Justified) (hsound : m.Sound)
    (hidle : m.blocked = true ∨ m.current = .working) : m.lockHeld = false := by
  have hawaited : m.awaited = none :=
    hidle.elim (fun hblocked => (hsound.blocked hblocked).2.2) hsound.awaited_eq_none
  have hphaseTimer : m.phaseTimer = none := by
    refine hidle.elim hsound.phaseTimer_eq_none_of_blocked (fun hworking => ?_)
    exact hsound.phaseTimer_eq_none (by rw [hworking]; decide)
  refine Bool.eq_false_iff.2 (fun hheld => ?_)
  have hreason := h hheld
  simp [hawaited, hphaseTimer] at hreason

lemma justified_of_lockHeld_eq_false (h : m.lockHeld = false) : m.Justified := by
  intro hheld
  rw [h] at hheld
  cases hheld

end Machine

namespace Rig

variable {σ : Type} {policy : Policy} {rig after : Rig σ}

lemma Entered.justified {next : State} (h : Entered policy next rig after) :
    after.machine.Justified := fun hheld => Or.inr (h.lock hheld)

lemma justified_enterOrBlock (policy : Policy) (next : State) (rig : Rig σ) :
    (rig.enterOrBlock policy next).machine.Justified := by
  rcases enterOrBlock_cases policy next rig with ⟨-, -, hrefused⟩ | hentered
  · refine Machine.justified_of_lockHeld_eq_false ?_
    rw [hrefused, block_machine]
  · exact hentered.justified

/-- After every step there is a reason to hold the wake lock, if it is held. -/
lemma Step.justified {delivery : Delivery}
    (hstep : Step policy rig delivery after) (hsound : rig.machine.Sound)
    (h : rig.machine.Justified) : after.machine.Justified := by
  cases hstep with
  | rest => exact h
  | wake constraint => exact justified_enterOrBlock policy .working _
  | dark idle => exact justified_enterOrBlock policy .dark rig
  | retry blocked =>
    rcases retry_cases policy rig with ⟨-, hrefused⟩ | hentered
    · refine Machine.justified_of_lockHeld_eq_false ?_
      rw [hrefused]
      exact h.lockHeld_eq_false hsound (Or.inl blocked)
    · exact hentered.justified
  | depart constraint ready leads => exact justified_enterOrBlock policy _ _
  | refuse constraint ready leads asked =>
    refine Machine.justified_of_lockHeld_eq_false ?_
    rw [block_machine]
  | await constraint ready leads asked unblocked => exact fun _ => Or.inl rfl
  | phase constraint ahead => exact fun hheld => Or.inr ((settled_enterPhase _ _).lock hheld)
  | awaitPhase constraint ahead => exact fun _ => Or.inl rfl
  | endPhases constraint ahead =>
    refine Machine.justified_of_lockHeld_eq_false ?_
    rw [releaseLock_machine]

/-! ## Runs -/

variable {judge : Constraint σ}

lemma Balanced.moved (h : rig.Balanced) (hsound : rig.machine.Sound) {move : MachineMove σ}
    (hworks : move ≠ .host (.fail .acquire true)) : (rig.moved judge policy move).Balanced := by
  cases move with
  | handle message =>
    exact (step_handleEvent judge policy message rig).balanced (h.congr rfl rfl)
  | deliver id task => exact (step_onTimer judge policy hsound id task).balanced h
  | answer passed => exact (step_endEvaluation policy hsound passed).balanced h
  | init => exact h.cancelTimers.congr rfl rfl
  | uninit => exact releaseLock (h.cancelTimers.congr rfl rfl)
  | refusePhase =>
    unfold Rig.moved refusePhase
    dsimp only
    split
    · exact h
    · exact releaseLock (h.congr rfl rfl)
  | host move =>
    have hsame := rig.host.moved_calls move
    refine ⟨?_, ?_, ?_⟩
    · cases move with
      | advance | sense | setWall => exact h.works
      | fail failing on =>
        cases failing with
        | acquire =>
          cases on with
          | true => exact absurd rfl hworks
          | false => rfl
        | arm | post | release | load | save | audit => exact h.works
    · show ∀ earlier, earlier <+: (rig.host.moved move).wakeLock.calls → _
      rw [hsame]
      exact h.turns
    · show (rig.host.moved move).wakeLock.acquires = (rig.host.moved move).wakeLock.releases + _
      unfold WakeLock.acquires WakeLock.releases
      rw [hsame]
      exact h.calls
  | reload | think => exact h.congr rfl rfl

end Rig

namespace MachineRun

variable {σ : Type} {judge : Constraint σ} {policy : Policy} {run : MachineRun σ}

/-- The machine holds the wake lock for a reason only. -/
def Holds (run : MachineRun σ) : Prop := run.orderly = true → run.rig.machine.Justified

lemma Holds.after (h : run.Holds) (hsound : run.rig.machine.Sound) (move : MachineMove σ) :
    (run.after judge move).Holds := by
  intro horderly
  cases move with
  | handle message =>
    exact (Rig.step_handleEvent judge run.policy message run.rig).justified (hsound.noted _ _)
      (h horderly)
  | deliver id task =>
    exact (Rig.step_onTimer judge run.policy hsound id task).justified hsound (h horderly)
  | answer passed =>
    exact (Rig.step_endEvaluation run.policy hsound passed).justified hsound (h horderly)
  | init =>
    -- A start does not let the lock go, so this takes that the machine did not hold it before.
    obtain ⟨-, hnot⟩ := (Bool.and_eq_true_iff ..).1 horderly
    have hfree : run.rig.machine.lockHeld = false := by simpa using hnot
    exact Machine.justified_of_lockHeld_eq_false hfree
  | uninit =>
    refine Machine.justified_of_lockHeld_eq_false ?_
    show run.rig.uninit.machine.lockHeld = false
    rw [Rig.uninit_machine]
  | refusePhase =>
    show run.rig.refusePhase.machine.Justified
    rw [Rig.refusePhase_machine]
    intro hheld
    obtain ⟨hheld, hnone⟩ := (Bool.and_eq_true_iff ..).1 hheld
    refine Or.inl ((h horderly hheld).resolve_right ?_)
    rw [Option.isNone_iff_eq_none.1 hnone]
    decide
  | host | reload | think => exact h horderly

namespace Reachable

variable {host : Host} {constraint : σ} {Allows : MachineRun σ → MachineMove σ → Prop}

lemma balanced (hnew : host.wakeLock = {})
    (h : Reachable judge (fun _ move => move ≠ .host (.fail .acquire true))
      (.start ⟨{}, host, constraint⟩ policy) run) : run.rig.Balanced := by
  induction h with
  | start =>
    have hlock : (MachineRun.start ⟨{}, host, constraint⟩ policy).rig.host.wakeLock = {} := hnew
    refine ⟨?_, ?_, ?_⟩
    · rw [hlock]
    · rw [hlock]
      intro earlier hearlier
      rw [List.prefix_nil.1 hearlier]
      decide
    · rw [hlock]
      rfl
  | move reached allowed ih => exact ih.moved reached.sound allowed

lemma holds (h : Reachable judge Allows (.start ⟨{}, host, constraint⟩ policy) run) :
    run.Holds := by
  induction h with
  | start => exact fun _ => Machine.justified_of_lockHeld_eq_false rfl
  | move reached _ ih => exact ih.after reached.sound _

end Reachable

end MachineRun

/-- In a run of a new machine, with a wake lock that can be taken whenever it is asked for, the lock
is at no point, not even within a step, let go more often than it was taken, or taken more than once
before it is let go.  The machine holds it exactly when it was taken once more.

If the machine did not hold the lock whenever it was started, it holds it between steps only while an
answer is awaited, or in sleep, before the last phase, while a timer for the next phase is recorded;
a blocked machine does not hold it then, nor one that works.  A machine that was stopped does not
hold it in any case. -/
theorem wake_lock_is_balanced_and_held_for_a_reason {σ : Type} {judge : Constraint σ} {host : Host}
    {constraint : σ} {policy : Policy} {run : MachineRun σ} (hnew : host.wakeLock = {})
    (h : MachineRun.Reachable judge (fun _ move => move ≠ .host (.fail .acquire true))
      (.start ⟨{}, host, constraint⟩ policy) run) :
    (∀ earlier, earlier <+: run.rig.host.wakeLock.calls →
      earlier.count .release ≤ earlier.count .acquire ∧
        earlier.count .acquire ≤ earlier.count .release + 1) ∧
    (run.rig.machine.lockHeld = true ↔
      run.rig.host.wakeLock.acquires = run.rig.host.wakeLock.releases + 1) ∧
    (run.orderly = true →
      (run.rig.machine.lockHeld = true → run.rig.machine.awaited.isSome = true ∨
        run.rig.machine.current = .sleep ∧ run.rig.machine.phase < Machine.finalPhase ∧
          run.rig.machine.phaseTimer.isSome = true) ∧
      (run.rig.machine.blocked = true ∨ run.rig.machine.current = .working →
        run.rig.machine.lockHeld = false)) ∧
    (run.after judge .uninit).rig.machine.lockHeld = false := by
  have hsound := h.sound
  have hbalanced := h.balanced hnew
  have hcalls := hbalanced.calls
  refine ⟨hbalanced.turns, ?_, ?_, ?_⟩
  · cases hheld : run.rig.machine.lockHeld with
    | true => simpa [hheld] using hcalls
    | false => simp [hcalls, hheld]
  · intro horderly
    have hjustified := h.holds horderly
    refine ⟨fun hheld => ?_, hjustified.lockHeld_eq_false hsound⟩
    refine (hjustified hheld).imp_right (fun htimer => ?_)
    obtain ⟨hphases, -⟩ := hsound.phaseTimer htimer
    exact ⟨hphases.sleeps, hphases.ahead, htimer⟩
  · show run.rig.uninit.machine.lockHeld = false
    rw [Rig.uninit_machine]

/-- The screen is switched off, and five minutes later the constraint does not know yet whether the
device may nap. -/
def MachineRun.atDusk : MachineRun Probe :=
  (start ⟨{}, {}, { script := some .pending }⟩ (Policy.default {})).afterAll Probe.constraint
    [.handle (.event Action.screenOff), .host (.advance 300000),
      .deliver 1 (.transitNextState .dark)]

/-- At dusk the lock is held, since an answer is awaited, until the machine is stopped. -/
theorem wake_lock_at_dusk :
    MachineRun.atDusk.rig.host.wakeLock.calls = [.acquire] ∧
    MachineRun.atDusk.rig.machine.awaited = some (.state .nap) ∧
    MachineRun.atDusk.rig.machine.lockHeld = true ∧
    (MachineRun.atDusk.rig.machine.blocked = true ∨
      MachineRun.atDusk.rig.machine.current = .working →
        MachineRun.atDusk.rig.machine.lockHeld = false) ∧
    (MachineRun.atDusk.after Probe.constraint .uninit).rig.machine.lockHeld = false := by
  have hreached : MachineRun.Reachable Probe.constraint
      (fun _ move => move ≠ .host (.fail .acquire true))
      (.start ⟨{}, {}, { script := some .pending }⟩ (Policy.default {})) MachineRun.atDusk :=
    .afterAll .start (by simp)
  obtain ⟨-, hheld, hreasons, hstopped⟩ :=
    wake_lock_is_balanced_and_held_for_a_reason rfl hreached
  exact ⟨by decide +kernel, by decide +kernel, hheld.2 (by decide +kernel),
    (hreasons (by decide +kernel)).2, hstopped⟩

/-- A machine that is started once more at dusk, without having been stopped, goes on holding the
lock: it works, it is not blocked, and no answer is awaited. -/
theorem started_machine_keeps_lock :
    let run := MachineRun.atDusk.after Probe.constraint .init
    MachineRun.Reachable Probe.constraint (fun _ move => move ≠ .host (.fail .acquire true))
        (.start ⟨{}, {}, { script := some .pending }⟩ (Policy.default {})) run ∧
      run.rig.host.wakeLock.failAcquire = false ∧ run.rig.host.wakeLock.failRelease = false ∧
      run.rig.machine.lockHeld = true ∧ run.rig.machine.current = .working ∧
      run.rig.machine.blocked = false ∧ run.rig.machine.awaited = none ∧
      run.rig.machine.phaseTimer = none := by
  intro run
  refine ⟨.move (.afterAll .start (by simp)) (by simp), ?_, ?_, ?_, ?_, ?_, ?_, ?_⟩
  all_goals decide +kernel

end DeviceStandby
