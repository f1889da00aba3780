import DeviceStandby.Proofs.BackoffCalls
import DeviceStandby.Proofs.MachineRuns

/-!
# The machine never stalls

A machine that could leave its state and is neither blocked nor waits for an answer has a timer that
will make it go on.  Two invariants carry this.  `Machine.Scheduled` says that the machine remembers
the number of such a timer: all entries that succeed arm what their plan asks for, and all other
ways to lose the timer leave the machine blocked or waiting.  `Rig.Tracked` says that the timer with
this number is armed, or has fired and was not delivered yet.

A blocked machine enters its state once more with the next event (`Rig.handleEvent_of_blocked`).
-/

namespace DeviceStandby

/-! ## Which states are left -/

namespace Backoff

variable {intervals : List Nat}

/-- What is handed out is on the list, unless that is empty. -/
lemma stretch_mem (hsome : intervals ≠ []) (backoff : Backoff) (repeated : Prop)
    [Decidable repeated] :
    (if repeated then backoff.again intervals else backoff.next intervals).1 ∈ intervals := by
  split
  · exact again_mem hsome backoff
  · exact next_mem hsome backoff

lemma stretch_nil (backoff : Backoff) (repeated : Prop) [Decidable repeated] :
    (if repeated then backoff.again [] else backoff.next []).1 = 0 := by
  simp only [again, next]
  split <;> simp

/-- Nothing is handed out of an empty list only. -/
lemma stretch_eq_zero_iff (hpositive : ∀ interval ∈ intervals, 0 < interval) (backoff : Backoff)
    (repeated : Prop) [Decidable repeated] :
    (if repeated then backoff.again intervals else backoff.next intervals).1 = 0 ↔
      intervals = [] := by
  by_cases hnone : intervals = []
  · subst hnone
    exact iff_of_true (stretch_nil backoff repeated) rfl
  · have hpos := hpositive _ (stretch_mem hnone backoff repeated)
    exact iff_of_false (by omega) hnone

end Backoff

namespace Policy

/-- Whether entering a state arms a timer. -/
def leaves (policy : Policy) : State → Bool
  | .working => false
  | .dark => policy.napSwitch || policy.sleepSwitch
  | .nap => policy.sleepSwitch || !policy.napIntervals.isEmpty
  | .maintenance => true
  | .sleep => !policy.sleepIntervals.isEmpty

/-- All intervals last some time. -/
structure Paced (policy : Policy) : Prop where
  nap : ∀ interval ∈ policy.napIntervals, 0 < interval
  sleep : ∀ interval ∈ policy.sleepIntervals, 0 < interval

lemma intervalsOr_pos {fallback : List Nat} (hfallback : ∀ interval ∈ fallback, 0 < interval)
    (setting : Option (List Int)) : ∀ interval ∈ intervalsOr fallback setting, 0 < interval := by
  cases setting with
  | none => exact hfallback
  | some values =>
    intro interval hmem
    obtain ⟨value, hvalue, rfl⟩ := List.mem_map.1 hmem
    have hpos : 0 < value := by simpa using (List.mem_filter.1 hvalue).2
    omega

/-- The intervals of a policy that was read from a file last some time, whatever the file says. -/
lemma paced_ofFile (env : Environment) (file : ConfigFile) : (ofFile env file).Paced :=
  ⟨intervalsOr_pos (by decide) _, intervalsOr_pos (by decide) _⟩

end Policy

namespace Machine

variable {policy : Policy}

lemma napTimer_isSome (policy : Policy) (interval remaining : Nat) :
    (napTimer policy interval remaining).isSome = (policy.sleepSwitch || interval ≠ 0) := by
  unfold napTimer
  cases policy.sleepSwitch with
  | true =>
    simp only [Bool.not_true, Bool.or_false, Bool.true_or]
    split <;> rfl
  | false =>
    simp only [Bool.not_false, Bool.or_true, Bool.and_true, Bool.false_or, Bool.false_eq_true,
      if_false]
    split <;> simp_all

/-- A plan arms a timer exactly if the policy says that the state is left. -/
lemma planEntry_timer_isSome (hpaced : policy.Paced) (machine : Machine) (now : Int)
    (next : State) :
    (machine.planEntry policy now next).timer.isSome = policy.leaves next := by
  cases next with
  | working => rfl
  | dark =>
    show ((darkTarget policy).map _).isSome = (policy.napSwitch || policy.sleepSwitch)
    rw [Option.isSome_map]
    unfold darkTarget
    cases policy.napSwitch <;> cases policy.sleepSwitch <;> rfl
  | nap =>
    show (napTimer policy (if machine.current = .nap then Backoff.again _ _
      else Backoff.next _ _).1 _).isSome = (policy.sleepSwitch || !policy.napIntervals.isEmpty)
    rw [napTimer_isSome]
    simp only [ne_eq, Backoff.stretch_eq_zero_iff hpaced.nap]
    cases policy.napIntervals <;> rfl
  | maintenance => rfl
  | sleep =>
    have hzero : machine.sleepInterval policy = 0 ↔ policy.sleepIntervals = [] :=
      Backoff.stretch_eq_zero_iff hpaced.sleep _ _
    rw [planEntry, planSleep_timer, Policy.leaves]
    by_cases hempty : policy.sleepIntervals = []
    · rw [if_pos (hzero.2 hempty), hempty]
      rfl
    · rw [if_neg (mt hzero.1 hempty)]
      simp [hempty]

/-! ## The number of the timer -/

/-- The machine remembers a timer if it knows where to go, and also if it could leave its state and
is neither blocked nor waits for an answer. -/
structure Scheduled (policy : Policy) (m : Machine) : Prop where
  next : m.nextState.isSome = true → m.stateTimer.isSome = true
  timer : m.blocked = false → (∀ next, m.awaited ≠ some (.state next)) →
    policy.leaves m.current = true → m.stateTimer.isSome = true

variable {m : Machine}

lemma scheduled_of_blocked (hblocked : m.blocked = true) (hnone : m.nextState = none) :
    m.Scheduled policy := by
  refine ⟨fun hnext => ?_, fun hfree => ?_⟩
  · rw [hnone] at hnext
    cases hnext
  · rw [hblocked] at hfree
    cases hfree

/-- A machine that sleeps does not wait for an answer about a state. -/
lemma Sound.awaited_ne_state (h : m.Sound) (hsleeps : m.current = .sleep) (next : State) :
    m.awaited ≠ some (.state next) := by
  intro hawaited
  obtain ⟨hleads, hasked, -⟩ := h.awaitedState next hawaited
  exact hleads.ne_sleep hasked hsleeps

end Machine

namespace Rig

variable {σ : Type} {policy : Policy} {rig after : Rig σ}

lemma Entered.scheduled {next : State} (h : Entered policy next rig after) (hpaced : policy.Paced) :
    after.machine.Scheduled policy := by
  refine ⟨fun hnext => ?_, fun _ _ hleaves => ?_⟩
  · rwa [← h.nextState_isSome]
  · rw [h.current] at hleaves
    rw [h.timer, plan, Machine.planEntry_timer_isSome hpaced]
    exact hleaves

lemma scheduled_enterOrBlock (hpaced : policy.Paced) {next : State}
    (hnone : rig.machine.nextState = none) :
    (rig.enterOrBlock policy next).machine.Scheduled policy := by
  rcases enterOrBlock_cases policy next rig with ⟨-, -, hrefused⟩ | hentered
  · rw [hrefused, block_machine]
    exact Machine.scheduled_of_blocked rfl hnone
  · exact hentered.scheduled hpaced

/-- In sleep, phases come and go without the state timer. -/
lemma scheduled_phased (hsound : rig.machine.Sound) (ahead : rig.machine.InPhases)
    (h : rig.machine.Scheduled policy) {machine : Machine}
    (hnext : machine.nextState = rig.machine.nextState)
    (htimer : machine.stateTimer = rig.machine.stateTimer)
    (hcurrent : machine.current = rig.machine.current) : machine.Scheduled policy := by
  refine ⟨?_, fun _ _ hleaves => ?_⟩
  · rw [hnext, htimer]
    exact h.next
  · rw [htimer]
    rw [hcurrent] at hleaves
    exact h.timer ahead.unblocked (hsound.awaited_ne_state ahead.sleeps) hleaves

/-- A machine stays scheduled with every step. -/
lemma Step.scheduled {delivery : Delivery}
    (hstep : Step policy rig delivery after) (hpaced : policy.Paced) (hsound : rig.machine.Sound)
    (h : rig.machine.Scheduled policy) : after.machine.Scheduled policy := by
  cases hstep with
  | rest => exact h
  | wake constraint => exact (entered_working policy _).scheduled hpaced
  | dark idle =>
    simp only [mayGoDark, Bool.and_eq_true, decide_eq_true_eq] at idle
    exact scheduled_enterOrBlock hpaced (hsound.nextState_eq_none idle.1.1)
  | retry blocked =>
    rcases retry_cases policy rig with ⟨-, hrefused⟩ | hentered
    · rw [hrefused]
      exact Machine.scheduled_of_blocked blocked (hsound.blocked blocked).2.1
    · exact hentered.scheduled hpaced
  | depart constraint ready leads =>
    obtain ⟨hmachine, -⟩ := ready_frame ready
    refine scheduled_enterOrBlock hpaced ?_
    rw [hmachine]
  | refuse constraint ready leads asked =>
    obtain ⟨hmachine, -⟩ := ready_frame ready
    rw [block_machine, hmachine]
    exact Machine.scheduled_of_blocked rfl rfl
  | @await prepared next constraint ready leads asked unblocked =>
    obtain ⟨hmachine, -⟩ := ready_frame (Or.inr ready)
    refine ⟨fun hnext => ?_, fun _ hawaited => absurd rfl (hawaited next)⟩
    rw [hmachine] at hnext
    cases hnext
  | phase constraint ahead =>
    have hmachine := (settled_enterPhase (rig.machine.phase + 1) (rig.lulled constraint)).machine
    rw [hmachine]
    exact scheduled_phased hsound ahead h rfl rfl rfl
  | awaitPhase constraint ahead => exact scheduled_phased hsound ahead h rfl rfl rfl
  | endPhases constraint ahead =>
    rw [releaseLock_machine]
    exact scheduled_phased hsound ahead h rfl rfl rfl

/-! ## The timer with the number -/

/-- The state timer is armed, or has fired and waits to be delivered. -/
def Tracked (fired : List ArmedTimer) (rig : Rig σ) : Prop :=
  ∀ id, rig.machine.stateTimer = some id → ∃ timer ∈ rig.host.timers.pending ++ fired,
    timer.id = id ∧ timer.task = .transitNextState rig.machine.current

variable {fired later : List ArmedTimer}

lemma tracked_of_eq_none (h : rig.machine.stateTimer = none) : rig.Tracked fired := by
  intro id hid
  rw [h] at hid
  cases hid

lemma Entered.tracked {next : State} (h : Entered policy next rig after) : after.Tracked fired := by
  intro id hid
  obtain ⟨timer, hmem, hfound⟩ := h.armed id hid
  rw [h.current]
  exact ⟨timer, List.mem_append_left _ hmem, hfound⟩

lemma tracked_enterOrBlock (policy : Policy) (next : State) (rig : Rig σ) :
    (rig.enterOrBlock policy next).Tracked fired := by
  rcases enterOrBlock_cases policy next rig with ⟨-, -, hrefused⟩ | hentered
  · refine tracked_of_eq_none ?_
    rw [hrefused, block_machine, cancelTimers_machine]
  · exact hentered.tracked

/-- The timer is still tracked if it is the same one, no armed timer is lost, and the timer itself
is not delivered. -/
lemma Tracked.keep (h : rig.Tracked fired)
    (htimer : after.machine.stateTimer = rig.machine.stateTimer)
    (hcurrent : after.machine.current = rig.machine.current)
    (hpending : ∀ timer ∈ rig.host.timers.pending, rig.stateDelivery = some (timer.id, timer.task) →
      timer ∈ after.host.timers.pending ∨ timer ∈ later)
    (hfired : ∀ timer ∈ fired, rig.stateDelivery = some (timer.id, timer.task) → timer ∈ later) :
    after.Tracked later := by
  intro id hid
  rw [htimer] at hid
  obtain ⟨timer, hmem, rfl, htask⟩ := h id hid
  have hdelivery : rig.stateDelivery = some (timer.id, timer.task) := by
    rw [stateDelivery, hid, htask]
    rfl
  refine ⟨timer, List.mem_append.2 ?_, rfl, hcurrent ▸ htask⟩
  rcases List.mem_append.1 hmem with hmem | hmem
  · exact hpending timer hmem hdelivery
  · exact Or.inr (hfired timer hmem hdelivery)

lemma mem_waiting {timer : ArmedTimer} {delivery : Delivery}
    (hmem : timer ∈ fired) (hother : delivery ≠ some (timer.id, timer.task)) :
    timer ∈ MachineRun.waiting fired delivery := by
  cases delivery with
  | none => exact hmem
  | some delivery =>
    refine (List.mem_eraseP_of_neg ?_).2 hmem
    intro heq
    simp only [Bool.and_eq_true, decide_eq_true_eq] at heq
    exact hother (by rw [heq.1, heq.2])

/-- The phase timer is not the state timer. -/
lemma phaseDelivery_ne {timer : ArmedTimer}
    (h : rig.stateDelivery = some (timer.id, timer.task)) :
    rig.phaseDelivery ≠ some (timer.id, timer.task) := by
  intro hphase
  obtain ⟨_, -, hstate⟩ := Option.map_eq_some_iff.1 h
  obtain ⟨_, -, hother⟩ := Option.map_eq_some_iff.1 hphase
  rw [← hother] at hstate
  cases hstate

/-- No step loses track of the state timer. -/
lemma Step.tracked {delivery : Delivery}
    (hstep : Step policy rig delivery after) (h : rig.Tracked fired) :
    after.Tracked (MachineRun.waiting fired delivery) := by
  have hphase : ∀ timer ∈ fired, rig.stateDelivery = some (timer.id, timer.task) →
      timer ∈ MachineRun.waiting fired rig.phaseDelivery :=
    fun timer hmem hstate => mem_waiting hmem (phaseDelivery_ne hstate)
  cases hstep with
  | rest stale =>
    -- What is delivered is not the state timer, so it is another one that is taken off the list.
    refine h.keep rfl rfl (fun timer hmem _ => Or.inl hmem) (fun timer hmem hstate => ?_)
    refine mem_waiting hmem (fun hdelivery => ?_)
    exact stale (by rw [hdelivery]; rfl) (hstate.trans hdelivery.symm)
  | wake constraint => exact tracked_enterOrBlock policy .working _
  | dark idle => exact tracked_enterOrBlock policy .dark rig
  | retry blocked =>
    rcases retry_cases policy rig with ⟨-, hrefused⟩ | hentered
    · rw [hrefused]
      exact tracked_of_eq_none rfl
    · exact hentered.tracked
  | depart constraint ready leads => exact tracked_enterOrBlock policy _ _
  | refuse constraint ready leads asked =>
    obtain ⟨hmachine, -⟩ := ready_frame ready
    refine tracked_of_eq_none ?_
    rw [block_machine, hmachine]
  | await constraint ready leads asked unblocked =>
    obtain ⟨hmachine, -⟩ := ready_frame (Or.inr ready)
    exact tracked_of_eq_none (congrArg Machine.stateTimer hmachine)
  | phase constraint ahead =>
    have hsettled := settled_enterPhase (rig.machine.phase + 1) (rig.lulled constraint)
    refine h.keep ?_ ?_ (fun timer hmem _ => Or.inl (hsettled.kept timer ?_)) hphase
    · rw [hsettled.machine]
      rfl
    · rw [hsettled.machine]
      rfl
    · rw [phased, Host.announce_timers]
      exact hmem
  | awaitPhase constraint ahead => exact h.keep rfl rfl (fun timer hmem _ => Or.inl hmem) hphase
  | endPhases constraint ahead =>
    refine h.keep ?_ ?_ (fun timer hmem _ => Or.inl ?_) hphase
    · rw [releaseLock_machine]
      rfl
    · rw [releaseLock_machine]
      rfl
    · rw [releaseLock_timers]
      exact hmem

/-! ## Leaving a block -/

/-- The machine has left the block and waits for no answer, in the same state or in working, or from
working in dark; or it could not arm a timer and stays blocked where it was. -/
def Recovers (rig after : Rig σ) : Prop :=
  (after.machine.blocked = false ∧ after.machine.awaited = none ∨
    after.machine.blocked = true ∧ rig.host.timers.failing = true ∧
      after.machine.current = rig.machine.current) ∧
  (after.machine.current = rig.machine.current ∨ after.machine.current = .working ∨
    rig.machine.current = .working ∧ after.machine.current = .dark)

lemma Entered.recovers {before : Rig σ} {next : State} (h : Entered policy next before after)
    (hnext : next = rig.machine.current ∨ next = .working ∨
      rig.machine.current = .working ∧ next = .dark) : rig.Recovers after := by
  refine ⟨Or.inl ⟨h.unblocked, h.awaited⟩, ?_⟩
  rw [h.current]
  exact hnext

lemma recovers_retryIfBlocked (rig : Rig σ) (hblocked : rig.machine.blocked = true) :
    Recovers rig (rig.retryIfBlocked policy) := by
  unfold retryIfBlocked
  rw [if_pos hblocked]
  rcases retry_cases policy rig with ⟨hfailing, hrefused⟩ | hentered
  · rw [hrefused]
    exact ⟨Or.inr ⟨hblocked, hfailing, rfl⟩, Or.inl rfl⟩
  · exact hentered.recovers (Or.inl rfl)

lemma recovers_goDarkOrRetry (rig : Rig σ) (hblocked : rig.machine.blocked = true) :
    Recovers rig (rig.goDarkOrRetry policy) := by
  unfold goDarkOrRetry
  split
  · rename_i hidle
    simp only [mayGoDark, Bool.and_eq_true, decide_eq_true_eq] at hidle
    rcases enterOrBlock_cases policy .dark rig with ⟨hfailing, -, hrefused⟩ | hentered
    · rw [hrefused, Recovers, block_machine]
      exact ⟨Or.inr ⟨rfl, hfailing, rfl⟩, Or.inl rfl⟩
    · exact hentered.recovers (Or.inr (Or.inr ⟨hidle.1.1, rfl⟩))
  · exact recovers_retryIfBlocked rig hblocked

lemma recovers_wakeUp (judge : Constraint σ) (rig : Rig σ) (hblocked : rig.machine.blocked = true) :
    Recovers rig (rig.wakeUp judge policy) := by
  unfold wakeUp
  rw [hblocked, Bool.not_true, Bool.and_false, if_neg Bool.false_ne_true]
  have hentered := entered_working policy { rig with
    constraint := if judge.isEvaluating rig.constraint then judge.stop rig.constraint
      else rig.constraint
    machine := { rig.machine with awaited := none } }
  exact hentered.recovers (Or.inr (Or.inl rfl))

/-- With the next event a blocked machine tries to leave the block. -/
lemma handleEvent_of_blocked (judge : Constraint σ) {message : Message}
    (hblocked : rig.machine.blocked = true)
    (hkind : message.kind = .commonEvent ∨ message.kind = .deviceStateChanged) :
    Recovers rig (rig.handleEvent judge policy message) := by
  unfold handleEvent
  rcases hkind with hkind | hkind
  · rw [hkind]
    dsimp only
    split
    · exact recovers_wakeUp judge
        { rig with machine := { rig.machine with screenOn := true } } hblocked
    · split
      · exact recovers_wakeUp judge
          { rig with machine := { rig.machine with charging := true } } hblocked
      · split
        · exact recovers_goDarkOrRetry
            { rig with machine := { rig.machine with screenOn := false } } hblocked
        · split
          · exact recovers_goDarkOrRetry
              { rig with machine := { rig.machine with charging := false } } hblocked
          · exact recovers_retryIfBlocked rig hblocked
  · rw [hkind]
    exact recovers_retryIfBlocked rig hblocked

end Rig

/-! ## Runs -/

namespace MachineRun

variable {σ : Type} {judge : Constraint σ} {policy : Policy} {run : MachineRun σ}

/-- The machine is scheduled under the policy, and the state timer is tracked. -/
structure OnTrack (policy : Policy) (run : MachineRun σ) : Prop where
  same : run.policy = policy
  scheduled : run.rig.machine.Scheduled policy
  tracked : run.rig.Tracked run.fired

lemma OnTrack.after (h : run.OnTrack policy) (hpaced : policy.Paced)
    (hsound : run.rig.machine.Sound) {move : MachineMove σ} (hmove : move.KeepsPolicy) :
    (run.after judge move).OnTrack policy := by
  obtain ⟨rfl, hscheduled, htracked⟩ := h
  cases move with
  | handle message =>
    have hstep := Rig.step_handleEvent judge run.policy message run.rig
    exact ⟨rfl, hstep.scheduled hpaced (hsound.noted _ _) ⟨hscheduled.next, hscheduled.timer⟩,
      hstep.tracked htracked⟩
  | deliver id task =>
    have hstep := Rig.step_onTimer judge run.policy hsound id task
    exact ⟨rfl, hstep.scheduled hpaced hsound hscheduled, hstep.tracked htracked⟩
  | answer passed =>
    have hstep := Rig.step_endEvaluation run.policy hsound passed
    exact ⟨rfl, hstep.scheduled hpaced hsound hscheduled, hstep.tracked htracked⟩
  | refusePhase =>
    refine ⟨rfl, ?_, ?_⟩
    · show run.rig.refusePhase.machine.Scheduled run.policy
      rw [Rig.refusePhase_machine]
      exact ⟨hscheduled.next, hscheduled.timer⟩
    · show run.rig.refusePhase.Tracked run.fired
      unfold Rig.refusePhase
      split
      · exact htracked
      · refine htracked.keep ?_ ?_ (fun timer hmem hdelivery => Or.inl ?_)
          (fun timer hmem _ => hmem)
        · rw [Rig.releaseLock_machine]
        · rw [Rig.releaseLock_machine]
        · obtain ⟨_, -, hstate⟩ := Option.map_eq_some_iff.1 hdelivery
          rw [Rig.releaseLock_timers]
          refine List.mem_filter.2 ⟨hmem, ?_⟩
          rw [← (Prod.mk.inj hstate).2]
          simp
  | host move =>
    refine ⟨rfl, hscheduled, ?_⟩
    refine htracked.keep rfl rfl (fun timer hmem _ => ?_) (fun timer hmem _ => ?_)
    · exact (Host.mem_moved_or_firing move hmem).imp_right (List.mem_append_right _)
    · exact List.mem_append_left _ hmem
  | think => exact ⟨rfl, hscheduled, htracked⟩
  | init | uninit | reload => exact absurd hmove id

lemma Reachable.onTrack {rig : Rig σ} (hpaced : policy.Paced)
    (h : Reachable judge (fun _ move => move.KeepsPolicy) (.start rig policy) run) :
    run.OnTrack policy := by
  induction h with
  | start =>
    refine ⟨rfl, ⟨fun hnext => ?_, fun _ _ hleaves => ?_⟩, Rig.tracked_of_eq_none rfl⟩
    · cases hnext
    · cases hleaves
  | move reached allowed ih => exact ih.after hpaced reached.sound allowed

end MachineRun

/-- A machine under a policy that was read from a file never stalls, whatever messages come, however
late and in which order its timers are delivered, and whenever timers cannot be armed.

It remembers a state timer exactly if it knows the next state, and neither of them while it is
blocked or waits for an answer about a state.  In all other cases, if its state can be left under
the policy, it remembers the number of a timer for this state which is armed, or has fired and was
not delivered yet.

With the next event a blocked machine leaves the block, in the same state, in working or from
working in dark, and then waits for no answer, so that it has its timer again; it stays blocked, and
where it was, only if timers cannot be armed. -/
theorem machine_never_stalls {σ : Type} {judge : Constraint σ} {rig : Rig σ} {env : Environment}
    {file : ConfigFile} {run : MachineRun σ}
    (h : MachineRun.Reachable judge (fun _ move => move.KeepsPolicy)
      (.start rig (Policy.ofFile env file)) run) :
    (run.rig.machine.stateTimer.isSome = true ↔ run.rig.machine.nextState.isSome = true) ∧
    ((run.rig.machine.blocked = true ∨ ∃ next, run.rig.machine.awaited = some (.state next)) →
      run.rig.machine.stateTimer = none ∧ run.rig.machine.nextState = none) ∧
    (run.rig.machine.blocked = false → (∀ next, run.rig.machine.awaited ≠ some (.state next)) →
      (Policy.ofFile env file).leaves run.rig.machine.current = true →
      ∃ id, run.rig.machine.stateTimer = some id ∧
        ∃ timer ∈ run.rig.host.timers.pending ++ run.fired,
          timer.id = id ∧ timer.task = .transitNextState run.rig.machine.current) ∧
    (run.rig.machine.blocked = true → ∀ message : Message,
      message.kind = .commonEvent ∨ message.kind = .deviceStateChanged →
      run.rig.Recovers (run.after judge (.handle message)).rig) := by
  have hsound := h.sound
  obtain ⟨-, hscheduled, htracked⟩ := h.onTrack (Policy.paced_ofFile env file)
  refine ⟨⟨hsound.timer, hscheduled.next⟩, ?_, ?_, ?_⟩
  · rintro (hblocked | ⟨next, hawaited⟩)
    · obtain ⟨htimer, hnext, -⟩ := hsound.blocked hblocked
      exact ⟨htimer, hnext⟩
    · obtain ⟨-, -, htimer, hnext⟩ := hsound.awaitedState next hawaited
      exact ⟨htimer, hnext⟩
  · intro hfree hawaited hleaves
    obtain ⟨id, hid⟩ := Option.isSome_iff_exists.1 (hscheduled.timer hfree hawaited hleaves)
    exact ⟨id, hid, htracked id hid⟩
  · intro hblocked message hkind
    exact Rig.handleEvent_of_blocked judge hblocked hkind

/-- The screen is switched off, and five minutes later the timer for dark has fired. -/
def MachineRun.late : MachineRun Unit :=
  (start ⟨{}, {}, ()⟩ (Policy.default {})).afterAll Constraint.device
    [.handle (.event Action.screenOff), .host (.advance 300000)]

/-- The screen is switched off while timers cannot be armed. -/
def MachineRun.jammed : MachineRun Unit :=
  (start ⟨{}, {}, ()⟩ (Policy.default {})).afterAll Constraint.device
    [.host (.fail .arm true), .handle (.event Action.screenOff)]

/-- The timer that has fired is the one that the machine remembers; and the machine that could not
go dark does not stay blocked any longer than timers cannot be armed. -/
theorem machine_never_stalls_at_dusk :
    MachineRun.late.rig.machine.current = .dark ∧
    (∃ id, MachineRun.late.rig.machine.stateTimer = some id ∧
      ∃ timer ∈ MachineRun.late.rig.host.timers.pending ++ MachineRun.late.fired,
        timer.id = id ∧ timer.task = .transitNextState MachineRun.late.rig.machine.current) ∧
    MachineRun.jammed.rig.machine.blocked = true ∧
    MachineRun.jammed.rig.Recovers
      (MachineRun.jammed.after Constraint.device (.handle (.event Action.discharging))).rig := by
  have hlate : MachineRun.Reachable Constraint.device (fun _ move => move.KeepsPolicy)
      (.start ⟨{}, {}, ()⟩ (Policy.ofFile {} { format := 1 })) MachineRun.late :=
    .afterAll .start (by simp [MachineMove.KeepsPolicy])
  have hjammed : MachineRun.Reachable Constraint.device (fun _ move => move.KeepsPolicy)
      (.start ⟨{}, {}, ()⟩ (Policy.ofFile {} { format := 1 })) MachineRun.jammed :=
    .afterAll .start (by simp [MachineMove.KeepsPolicy])
  obtain ⟨-, -, htimer, -⟩ := machine_never_stalls hlate
  obtain ⟨-, -, -, hrecovers⟩ := machine_never_stalls hjammed
  have hblocked : MachineRun.jammed.rig.machine.blocked = true := by decide +kernel
  refine ⟨by decide +kernel, htimer (by decide +kernel) (fun next => ?_) (by decide +kernel),
    hblocked, hrecovers hblocked _ (Or.inl rfl)⟩
  rw [show MachineRun.late.rig.machine.awaited = none by decide +kernel]
  exact fun hnone => by cases hnone

end DeviceStandby
