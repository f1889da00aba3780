import DeviceStandby.Proofs.ActiveUse

/-!
# What a step of the state machine does to its host

A step of the machine arms timers of the machine only, and tells at most one thing (`Rig.Tells`): a
change of state if there was one, and else perhaps a change of phase.  This holds whether or not the
queue takes the message, and says what the queue has taken.
-/

namespace DeviceStandby

/-- What a task asks of the machine; a snapshot asks for nothing. -/
def Task.move : Task → MachineMove Probe
  | .message body => .handle body
  | .timer id task => .deliver id task
  | .evaluationFinished passed => .answer passed
  | .snapshot => .think {}

namespace Rig

variable {σ : Type} {policy : Policy} {rig after : Rig σ}

/-- From one rig to the other the machine has armed timers of its own only, and has posted `more`:
that the state has changed if it has, and else at most that the phase has changed. -/
structure Tells (rig after : Rig σ) (more : List Task) : Prop where
  worked : Host.Worked (fun timer => timer.task.ofMachine = true) rig.host more after.host
  posted :
    (after.machine.current = rig.machine.current ∧ (more = [] ∨ ∃ previous next,
      more = rig.host.heard (.phaseTransit rig.machine.current previous next))) ∨
    (after.machine.current ≠ rig.machine.current ∧
      more = rig.host.heard (.stateTransit rig.machine.current after.machine.current))

lemma tells_nothing (hcurrent : after.machine.current = rig.machine.current)
    (hworked : Host.Worked (fun timer => timer.task.ofMachine = true) rig.host [] after.host) :
    rig.Tells after [] :=
  ⟨hworked, Or.inl ⟨hcurrent, Or.inl rfl⟩⟩

lemma Entered.tells {before : Rig σ} {next : State} (h : Entered policy next before after)
    (hcurrent : before.machine.current = rig.machine.current)
    (hbefore : Host.Worked (fun timer => timer.task.ofMachine = true) rig.host [] before.host) :
    ∃ more, rig.Tells after more := by
  have hmine : ∀ timer : ArmedTimer,
      timer.task = .transitNextState next ∨ timer.task = .transitNextPhase next →
        timer.task.ofMachine = true := by
    rintro timer (htask | htask) <;> rw [htask] <;> rfl
  have hworked := hbefore.trans (h.worked.weaken hmine)
  refine ⟨_, hworked, ?_⟩
  rw [List.nil_append, h.current, hcurrent]
  by_cases hsame : next = rig.machine.current
  · rw [if_pos hsame.symm]
    exact Or.inl ⟨hsame, Or.inl rfl⟩
  · rw [if_neg (Ne.symm hsame)]
    refine Or.inr ⟨hsame, ?_⟩
    unfold Host.heard
    rw [hbefore.posting]

lemma tells_enterOrBlock {before : Rig σ} (next : State)
    (hcurrent : before.machine.current = rig.machine.current)
    (hbefore : Host.Worked (fun timer => timer.task.ofMachine = true) rig.host [] before.host) :
    ∃ more, rig.Tells (before.enterOrBlock policy next) more := by
  rcases enterOrBlock_cases policy next before with ⟨-, -, hrefused⟩ | hentered
  · rw [hrefused]
    refine ⟨[], tells_nothing ?_ ?_⟩
    · rw [block_machine]
      exact hcurrent
    · exact (hbefore.trans (before.worked_cancelTimers _)).trans
        (.of_same (block_timers _) (block_queue _))
  · exact hentered.tells hcurrent hbefore

/-- What is prepared for a step has not told anything yet. -/
lemma worked_ready {prepared : Rig σ} {constraint : σ} (arms : ArmedTimer → Prop)
    (h : prepared = rig.cleared constraint ∨ prepared = (rig.cleared constraint).acquireLock) :
    prepared.machine.current = rig.machine.current ∧
      Host.Worked arms rig.host [] prepared.host := by
  obtain ⟨hmachine, htimers, hqueue, -⟩ := ready_frame h
  exact ⟨by rw [hmachine], .of_same htimers hqueue⟩

/-- Every step tells of the change that it makes. -/
theorem Step.tells {delivery : Delivery} (hstep : Step policy rig delivery after) :
    ∃ more, rig.Tells after more := by
  cases hstep with
  | rest => exact ⟨[], tells_nothing rfl (.refl rig.host)⟩
  | wake constraint => exact (entered_working policy _).tells rfl (.refl rig.host)
  | dark idle => exact tells_enterOrBlock .dark rfl (.refl rig.host)
  | retry blocked =>
    rcases retry_cases policy rig with ⟨-, hrefused⟩ | hentered
    · rw [hrefused]
      exact ⟨[], tells_nothing rfl (rig.worked_cancelTimers _)⟩
    · exact hentered.tells rfl (.refl rig.host)
  | depart constraint ready leads =>
    obtain ⟨hcurrent, hworked⟩ := worked_ready _ ready
    exact tells_enterOrBlock _ hcurrent hworked
  | refuse constraint ready leads asked =>
    obtain ⟨hcurrent, hworked⟩ := worked_ready (fun timer => timer.task.ofMachine = true) ready
    refine ⟨[], tells_nothing ?_ (hworked.trans (.of_same (block_timers _) (block_queue _)))⟩
    rw [block_machine]
    exact hcurrent
  | await constraint ready leads asked unblocked =>
    obtain ⟨hcurrent, hworked⟩ := worked_ready _ (Or.inr ready)
    exact ⟨[], tells_nothing hcurrent hworked⟩
  | phase constraint ahead =>
    have hsettled := settled_enterPhase (rig.machine.phase + 1) (rig.lulled constraint)
    have hmine : ∀ timer : ArmedTimer,
        timer.task = .transitNextPhase rig.machine.current → timer.task.ofMachine = true := by
      intro timer htask
      rw [htask]
      rfl
    have hworked := (Host.Worked.announce rig.host (.phaseTransit rig.machine.current
      rig.machine.phase (rig.machine.phase + 1))).still (hsettled.worked.weaken hmine)
    refine ⟨_, hworked, Or.inl ⟨?_, Or.inr ⟨_, _, rfl⟩⟩⟩
    rw [hsettled.machine]
    rfl
  | awaitPhase constraint ahead => exact ⟨[], tells_nothing rfl (.refl rig.host)⟩
  | endPhases constraint ahead =>
    refine ⟨[], tells_nothing ?_ (.of_same (releaseLock_timers _) (releaseLock_queue _))⟩
    rw [releaseLock_machine]
    rfl

/-- Whatever task the machine takes note of, it tells of the change that it makes. -/
lemma tells_task {rig : Rig Probe} (judge : Constraint Probe) (policy : Policy)
    (h : rig.machine.Sound) (task : Task) :
    ∃ more, rig.Tells (rig.moved judge policy task.move) more := by
  cases task with
  | message body =>
    obtain ⟨more, hworked, hposted⟩ := (step_handleEvent judge policy body rig).tells
    exact ⟨more, hworked, hposted⟩
  | timer id task => exact (step_onTimer judge policy h id task).tells
  | evaluationFinished passed => exact (step_endEvaluation policy h passed).tells
  | snapshot => exact ⟨[], tells_nothing rfl (.refl rig.host)⟩

/-! ## Starting and stopping -/

lemma worked_init (arms : ArmedTimer → Prop) (rig : Rig σ) :
    Host.Worked arms rig.host [] rig.init.host :=
  rig.worked_cancelTimers arms

lemma worked_uninit (arms : ArmedTimer → Prop) (rig : Rig σ) :
    Host.Worked arms rig.host [] rig.uninit.host :=
  (rig.worked_cancelTimers arms).trans (.of_same (releaseLock_timers _) (releaseLock_queue _))

lemma worked_refusePhase (arms : ArmedTimer → Prop) (rig : Rig σ) :
    Host.Worked arms rig.host [] rig.refusePhase.host := by
  unfold refusePhase
  split
  · exact .refl rig.host
  · refine .of_fewer ?_ (releaseLock_queue _) ?_ (fun timer hmem => ?_)
    · rw [releaseLock_timers]
    · rw [releaseLock_timers]
    · rw [releaseLock_timers] at hmem
      exact (List.mem_filter.1 hmem).1

end Rig

end DeviceStandby
