import DeviceStandby.Proofs.MachineWork
import Mathlib.Data.List.Nodup

/-!
# No timer of the machine is orphaned, doubled or mistaken

The machine remembers all timers that it has armed (`Rig.Owns`), one for the next state and one for
the next phase, and no two armed timers have the same number (`TimerSource.Ordered`); so at most one
of each is armed.

A timer may be on its way when it is cancelled or when another one takes its place.  From then on
its number is not remembered any more, and never will be again: whatever the machine does, it
remembers a number that it remembered before or one that had not been given yet (`Rig.Renews`).
-/

namespace DeviceStandby

/-! ## Numbers -/

namespace TimerTask

/-- Whether the timer leads the machine to the next state. -/
def ofState : TimerTask → Bool
  | transitNextState _ => true
  | transitNextPhase _ | revokeExpired _ _ _ | dayNightSwitch => false

/-- Whether the timer leads the machine to the next phase. -/
def ofPhase : TimerTask → Bool
  | transitNextPhase _ => true
  | transitNextState _ | revokeExpired _ _ _ | dayNightSwitch => false

end TimerTask

namespace TimerSource

/-- The armed timers are numbered in the order in which they were armed. -/
structure Ordered (source : TimerSource) : Prop where
  ascending : source.pending.Pairwise (fun timer later => timer.id < later.id)
  counted : source.Counted

namespace Ordered

variable {source next : TimerSource}

lemma new : ({} : TimerSource).Ordered := ⟨.nil, fun timer hmem => by cases hmem⟩

/-- Timers may be taken out. -/
lemma of_sublist (h : source.Ordered) (hnumbers : next.nextId = source.nextId)
    (hpending : next.pending.Sublist source.pending) : next.Ordered where
  ascending := h.ascending.sublist hpending
  counted := by
    intro timer hmem
    rw [hnumbers]
    exact h.counted timer (hpending.subset hmem)

lemma cancel? {host : Host} (h : host.timers.Ordered) (number : Option TimerId) :
    (host.cancel? number).timers.Ordered := by
  cases number with
  | none => exact h
  | some id => exact h.of_sublist rfl List.filter_sublist

lemma arm {host : Host} (h : host.timers.Ordered) (delay : Nat) (task : TimerTask) :
    (host.arm delay task).2.timers.Ordered := by
  cases hworks : host.timers.failing with
  | true =>
    rw [host.arm_of_failing delay task hworks]
    exact h
  | false =>
    have hworked : Host.Worked (fun _ => True) host [] (host.arm delay task).2 :=
      .arm host trivial
    refine ⟨?_, hworked.counted h.counted⟩
    rw [(host.arm_of_works delay task hworks).2, List.pairwise_append]
    refine ⟨h.ascending, List.pairwise_singleton _ _, fun timer hmem later hlater => ?_⟩
    rw [List.mem_singleton.1 hlater]
    exact h.counted timer hmem

lemma moved {host : Host} (h : host.timers.Ordered) (move : HostMove) :
    (host.moved move).timers.Ordered := by
  cases move with
  | advance millis => exact h.of_sublist rfl List.filter_sublist
  | sense | setWall => exact h
  | fail failing on => cases failing <;> exact h.of_sublist rfl (List.Sublist.refl _)

/-- No two armed timers have the same number. -/
lemma eq_of_id (h : source.Ordered) {timer other : ArmedTimer} (hmem : timer ∈ source.pending)
    (hother : other ∈ source.pending) (hid : timer.id = other.id) : timer = other := by
  refine List.inj_on_of_nodup_map (List.pairwise_map.2 ?_) hmem hother hid
  exact h.ascending.imp (fun hless => Nat.ne_of_lt hless)

/-- If all timers of a kind have the same number, there is at most one of them. -/
lemma countP_le_one (h : source.Ordered) {kind : ArmedTimer → Bool} {number : Option TimerId}
    (hkind : ∀ timer ∈ source.pending, kind timer = true → number = some timer.id) :
    source.pending.countP kind ≤ 1 := by
  rw [List.countP_eq_length_filter]
  have hascending := h.ascending.filter kind
  rcases hfilter : source.pending.filter kind with _ | ⟨timer, _ | ⟨later, rest⟩⟩
  · exact Nat.zero_le 1
  · exact Nat.le_refl 1
  · rw [hfilter] at hascending
    have hless := List.rel_of_pairwise_cons hascending (List.mem_cons_self ..)
    have hsame : ∀ other ∈ timer :: later :: rest, number = some other.id := by
      intro other hmem
      rw [← hfilter] at hmem
      exact hkind other (List.mem_filter.1 hmem).1 (List.mem_filter.1 hmem).2
    have heq := (hsame timer (by simp)).symm.trans (hsame later (by simp))
    exact absurd (Option.some.inj heq) (Nat.ne_of_lt hless)

end Ordered

end TimerSource

namespace Host

/-- A timer that could be armed has a number that was not given before. -/
lemma renewed_of_arm {host next : Host} {delay : Nat} {task : TimerTask}
    {number : Option TimerId} (h : host.arm delay task = (number, next)) :
    host.timers.nextId ≤ next.timers.nextId ∧
      (host.timers.Ordered → next.timers.Ordered) ∧
      ∀ id, number = some id → host.timers.nextId ≤ id := by
  obtain rfl : (host.arm delay task).2 = next := congrArg Prod.snd h
  obtain rfl : (host.arm delay task).1 = number := congrArg Prod.fst h
  have hworked : Worked (fun _ => True) host [] (host.arm delay task).2 := .arm host trivial
  refine ⟨hworked.numbers, fun hordered => ?_, ?_⟩
  · exact hordered.arm delay task
  · intro id hid
    cases hworks : host.timers.failing with
    | true =>
      rw [host.arm_of_failing delay task hworks] at hid
      cases hid
    | false =>
      rw [(host.arm_of_works delay task hworks).1] at hid
      exact Nat.le_of_eq (Option.some.inj hid)

lemma moved_nextId {host : Host} (move : HostMove) :
    (host.moved move).timers.nextId = host.timers.nextId := by
  cases move with
  | advance | sense | setWall => rfl
  | fail failing on => cases failing <;> rfl

end Host

/-! ## Steps -/

namespace Rig

variable {σ : Type} {policy : Policy} {rig after before last : Rig σ}

/-- Timers were armed under new numbers only, and the numbers that the machine remembers are new, or
were remembered before. -/
structure Renews (rig after : Rig σ) : Prop where
  numbers : rig.host.timers.nextId ≤ after.host.timers.nextId
  ordered : rig.host.timers.Ordered → after.host.timers.Ordered
  state : ∀ id, after.machine.stateTimer = some id →
    rig.machine.stateTimer = some id ∨ rig.host.timers.nextId ≤ id
  phase : ∀ id, after.machine.phaseTimer = some id →
    rig.machine.phaseTimer = some id ∨ rig.host.timers.nextId ≤ id

namespace Renews

/-- The timers are the same, and some may be forgotten. -/
lemma of_same (htimers : after.host.timers = rig.host.timers)
    (hstate : after.machine.stateTimer = none ∨
      after.machine.stateTimer = rig.machine.stateTimer)
    (hphase : after.machine.phaseTimer = none ∨
      after.machine.phaseTimer = rig.machine.phaseTimer) : rig.Renews after where
  numbers := Nat.le_of_eq (congrArg TimerSource.nextId htimers.symm)
  ordered := fun h => by rwa [htimers]
  state := by
    intro id hid
    rcases hstate with hnone | hsame
    · rw [hnone] at hid
      cases hid
    · exact Or.inl (hsame.symm.trans hid)
  phase := by
    intro id hid
    rcases hphase with hnone | hsame
    · rw [hnone] at hid
      cases hid
    · exact Or.inl (hsame.symm.trans hid)

lemma refl (rig : Rig σ) : rig.Renews rig := .of_same rfl (Or.inr rfl) (Or.inr rfl)

lemma trans (first : rig.Renews after) (second : after.Renews last) : rig.Renews last where
  numbers := Nat.le_trans first.numbers second.numbers
  ordered := fun h => second.ordered (first.ordered h)
  state := by
    intro id hid
    rcases second.state id hid with hold | hnew
    · exact first.state id hold
    · exact Or.inr (Nat.le_trans first.numbers hnew)
  phase := by
    intro id hid
    rcases second.phase id hid with hold | hnew
    · exact first.phase id hold
    · exact Or.inr (Nat.le_trans first.numbers hnew)

/-- What went before does not count if it has armed and remembered nothing. -/
lemma of_frame (h : before.Renews after) (htimers : before.host.timers = rig.host.timers)
    (hstate : before.machine.stateTimer = none ∨
      before.machine.stateTimer = rig.machine.stateTimer)
    (hphase : before.machine.phaseTimer = none ∨
      before.machine.phaseTimer = rig.machine.phaseTimer) : rig.Renews after :=
  (of_same htimers hstate hphase).trans h

end Renews

lemma renews_cancelTimers (rig : Rig σ) : rig.Renews rig.cancelTimers where
  numbers := Nat.le_of_eq rig.cancelTimers_nextId.symm
  ordered := fun h => (h.cancel? _).cancel? _
  state := fun id hid => by cases hid
  phase := fun id hid => by cases hid

lemma renews_releaseLock (rig : Rig σ) : rig.Renews rig.releaseLock := by
  refine .of_same (releaseLock_timers rig) (Or.inr ?_) (Or.inr ?_)
  all_goals rw [releaseLock_machine]

lemma renews_block (rig : Rig σ) : rig.Renews rig.block := by
  refine .of_same (block_timers rig) (Or.inr ?_) (Or.inr ?_)
  all_goals rw [block_machine]

lemma renews_armPhaseTimer (rig : Rig σ) : rig.Renews rig.armPhaseTimer := by
  unfold armPhaseTimer
  rcases harm : rig.host.arm 0 (.transitNextPhase rig.machine.current) with ⟨_ | number, host⟩
  all_goals obtain ⟨hnumbers, hordered, hnew⟩ := Host.renewed_of_arm harm
  · have harmed : rig.Renews { rig with host } :=
      ⟨hnumbers, hordered, fun id hid => Or.inl hid, fun id hid => Or.inl hid⟩
    exact harmed.trans (renews_releaseLock _)
  · exact ⟨hnumbers, hordered, fun id hid => Or.inl hid, fun id hid => Or.inr (hnew id hid)⟩

lemma renews_arrive (previous : State) (rig : Rig σ) : rig.Renews (rig.arrive previous) := by
  unfold arrive
  dsimp only
  split
  · exact renews_releaseLock rig
  · have htold : rig.Renews { rig with
        host := (rig.host.announce (.stateTransit previous rig.machine.current)).audit
          (.stateTransited previous rig.machine.current)
        machine := { rig.machine with phase := 0 } } :=
      .of_same (by simp) (Or.inr rfl) (Or.inr rfl)
    split
    · exact htold.trans (renews_armPhaseTimer _)
    · exact htold.trans (renews_releaseLock _)

lemma renews_enter (policy : Policy) (next : State) (rig : Rig σ) :
    rig.Renews (rig.enter policy next).2 := by
  refine rig.renews_cancelTimers.trans ?_
  unfold enter
  dsimp only
  split
  · exact (renews_arrive _ _).of_frame rfl (Or.inl rfl) (Or.inr rfl)
  · rename_i delay target hplan
    rcases harm : rig.cancelTimers.host.arm delay (.transitNextState next) with
      ⟨_ | number, host⟩
    all_goals obtain ⟨hnumbers, hordered, hnew⟩ := Host.renewed_of_arm harm
    · exact ⟨hnumbers, hordered, fun id hid => Or.inl hid, fun id hid => Or.inl hid⟩
    · refine Renews.trans ?_ (renews_arrive _ _)
      exact ⟨hnumbers, hordered, fun id hid => Or.inr (hnew id hid), fun id hid => Or.inl hid⟩

lemma renews_enterOrBlock (policy : Policy) (next : State) (rig : Rig σ) :
    rig.Renews (rig.enterOrBlock policy next) := by
  have hentered := renews_enter policy next rig
  unfold enterOrBlock
  rcases henter : rig.enter policy next with ⟨_ | _, after⟩
  all_goals rw [henter] at hentered
  · exact hentered.trans (renews_block after)
  · exact hentered

lemma renews_enterPhase (next : Nat) (rig : Rig σ) : rig.Renews (rig.enterPhase next) := by
  unfold enterPhase
  dsimp only
  have htold : rig.Renews { rig with
      host := rig.host.announce (.phaseTransit rig.machine.current rig.machine.phase next)
      machine := { rig.machine with phase := next } } :=
    .of_same (by simp) (Or.inr rfl) (Or.inr rfl)
  split
  · exact htold.trans (renews_releaseLock _)
  · exact htold.trans (renews_armPhaseTimer _)

lemma renews_ready {prepared : Rig σ} {constraint : σ}
    (h : prepared = rig.cleared constraint ∨ prepared = (rig.cleared constraint).acquireLock) :
    rig.Renews prepared := by
  obtain ⟨hmachine, htimers, -⟩ := ready_frame h
  refine .of_same htimers (Or.inl ?_) (Or.inr ?_)
  all_goals rw [hmachine]

lemma Step.renews {delivery : Delivery} (hstep : Step policy rig delivery after) :
    rig.Renews after := by
  cases hstep with
  | rest => exact .refl rig
  | wake constraint =>
    exact (renews_enterOrBlock policy .working _).of_frame rfl (Or.inr rfl) (Or.inr rfl)
  | dark idle => exact renews_enterOrBlock policy .dark rig
  | retry blocked => exact renews_enter policy rig.machine.current rig
  | depart constraint ready leads => exact (renews_ready ready).trans (renews_enterOrBlock _ _ _)
  | refuse constraint ready leads asked => exact (renews_ready ready).trans (renews_block _)
  | await constraint ready leads asked unblocked =>
    exact (renews_ready (Or.inr ready)).trans (.of_same rfl (Or.inr rfl) (Or.inr rfl))
  | phase constraint ahead =>
    exact (renews_enterPhase _ _).of_frame rfl (Or.inr rfl) (Or.inl rfl)
  | awaitPhase constraint ahead => exact .of_same rfl (Or.inr rfl) (Or.inl rfl)
  | endPhases constraint ahead =>
    exact (renews_releaseLock _).of_frame rfl (Or.inr rfl) (Or.inl rfl)

lemma renews_init (rig : Rig σ) : rig.Renews rig.init :=
  rig.renews_cancelTimers.trans (.of_same rfl (Or.inr rfl) (Or.inr rfl))

lemma renews_refusePhase (rig : Rig σ) : rig.Renews rig.refusePhase := by
  unfold refusePhase
  split
  · exact .refl rig
  · refine Renews.trans ?_ (renews_releaseLock _)
    exact ⟨Nat.le_refl _, fun h => h.of_sublist rfl List.filter_sublist,
      fun id hid => Or.inl hid, fun id hid => by cases hid⟩

/-- Whatever happens, no number is remembered that had been given before and was not remembered. -/
lemma renews_moved {judge : Constraint σ} (h : rig.machine.Sound) (move : MachineMove σ) :
    rig.Renews (rig.moved judge policy move) := by
  cases move with
  | handle message =>
    exact (step_handleEvent judge policy message rig).renews.of_frame rfl (Or.inr rfl) (Or.inr rfl)
  | deliver id task => exact (step_onTimer judge policy h id task).renews
  | answer passed => exact (step_endEvaluation policy h passed).renews
  | init => exact renews_init rig
  | uninit =>
    refine rig.renews_cancelTimers.trans ?_
    exact (renews_releaseLock _).of_frame rfl (Or.inr rfl) (Or.inr rfl)
  | refusePhase => exact renews_refusePhase rig
  | host move =>
    exact ⟨Nat.le_of_eq (Host.moved_nextId move).symm, fun h => h.moved move,
      fun id hid => Or.inl hid, fun id hid => Or.inl hid⟩
  | reload | think => exact .of_same rfl (Or.inr rfl) (Or.inr rfl)

/-! ## Stale timers -/

lemma onTimer_of_state_ne {judge : Constraint σ} {id : TimerId}
    (h : rig.machine.stateTimer ≠ some id) (source : State) :
    rig.onTimer judge policy id (.transitNextState source) = rig := by
  simp [onTimer, h]

lemma onTimer_of_phase_ne {judge : Constraint σ} {id : TimerId}
    (h : rig.machine.phaseTimer ≠ some id) (state : State) :
    rig.onTimer judge policy id (.transitNextPhase state) = rig := by
  simp [onTimer, h]

namespace Renews

variable {id : TimerId}

/-- A number that was given and is not remembered will not be remembered again. -/
lemma state_ne (h : rig.Renews after) (hgiven : id < rig.host.timers.nextId)
    (hgone : rig.machine.stateTimer ≠ some id) : after.machine.stateTimer ≠ some id := by
  intro hid
  rcases h.state id hid with hold | hnew
  · exact hgone hold
  · exact absurd hgiven (Nat.not_lt.2 hnew)

lemma phase_ne (h : rig.Renews after) (hgiven : id < rig.host.timers.nextId)
    (hgone : rig.machine.phaseTimer ≠ some id) : after.machine.phaseTimer ≠ some id := by
  intro hid
  rcases h.phase id hid with hold | hnew
  · exact hgone hold
  · exact absurd hgiven (Nat.not_lt.2 hnew)

end Renews

/-- The machine remembers the timers of both kinds. -/
lemma Owns.remembers (h : rig.Owns) {timer : ArmedTimer}
    (hmem : timer ∈ rig.host.timers.pending) :
    (timer.task.ofState = true → rig.machine.stateTimer = some timer.id) ∧
      (timer.task.ofPhase = true → rig.machine.phaseTimer = some timer.id) := by
  obtain ⟨hstate, hphase⟩ := h timer hmem
  cases htask : timer.task with
  | transitNextState source =>
    refine ⟨fun _ => hstate source htask, fun hkind => ?_⟩
    cases hkind
  | transitNextPhase state =>
    refine ⟨fun hkind => ?_, fun _ => (hphase state htask).1⟩
    cases hkind
  | revokeExpired | dayNightSwitch =>
    refine ⟨fun hkind => ?_, fun hkind => ?_⟩ <;> cases hkind

end Rig

/-! ## Runs -/

namespace MachineRun.Reachable

variable {σ : Type} {judge : Constraint σ} {Allows : MachineRun σ → MachineMove σ → Prop}
  {start run : MachineRun σ}

/-- From a sound machine on, all numbers that are remembered later are new or still the same. -/
lemma renews (h : Reachable judge Allows start run) (hsound : start.rig.machine.Sound) :
    run.rig.machine.Sound ∧ start.rig.Renews run.rig := by
  induction h with
  | start => exact ⟨hsound, .refl _⟩
  | @move before move _ _ ih =>
    obtain ⟨hbefore, hrenews⟩ := ih
    exact ⟨Rig.sound_moved hbefore move, hrenews.trans (Rig.renews_moved hbefore move)⟩

end MachineRun.Reachable

/-- In a run of a new machine, whatever happens, each armed timer of the machine has the number that
the machine remembers for its kind, and at most one of each kind is armed.

And if the machine does not remember the number of a timer that has been armed, because the timer
was cancelled or another one has taken its place, then however the run goes on, the timer changes
nothing when it is delivered; the machine may be stopped and started in between.  Timers fire before
they are delivered, and at the start none of a machine are armed. -/
theorem machine_timers_sole_and_never_stale {σ : Type} {judge : Constraint σ} {host : Host}
    {constraint : σ} {policy : Policy} {run : MachineRun σ} (hunarmed : Rig.Unarmed host)
    (hordered : host.timers.Ordered)
    (h : MachineRun.Reachable judge MachineRun.Fires (.start ⟨{}, host, constraint⟩ policy) run) :
    (∀ timer ∈ run.rig.host.timers.pending, timer.id < run.rig.host.timers.nextId ∧
      (timer.task.ofState = true → run.rig.machine.stateTimer = some timer.id) ∧
      (timer.task.ofPhase = true → run.rig.machine.phaseTimer = some timer.id)) ∧
    run.rig.host.timers.pending.countP (fun timer => timer.task.ofState) ≤ 1 ∧
    run.rig.host.timers.pending.countP (fun timer => timer.task.ofPhase) ≤ 1 ∧
    ∀ later, MachineRun.Reachable judge MachineRun.Fires run later →
      ∀ id < run.rig.host.timers.nextId,
        (run.rig.machine.stateTimer ≠ some id → ∀ source,
          later.rig.onTimer judge later.policy id (.transitNextState source) = later.rig) ∧
        (run.rig.machine.phaseTimer ≠ some id → ∀ state,
          later.rig.onTimer judge later.policy id (.transitNextPhase state) = later.rig) := by
  have howns := h.owns hunarmed
  have hrun : run.rig.host.timers.Ordered := by
    have hstart := (Rig.renews_init ⟨{}, host, constraint⟩).ordered hordered
    exact (h.renews (Rig.sound_init _)).2.ordered hstart
  refine ⟨fun timer hmem => ⟨hrun.counted timer hmem, howns.remembers hmem⟩, ?_, ?_, ?_⟩
  · exact hrun.countP_le_one (fun timer hmem => (howns.remembers hmem).1)
  · exact hrun.countP_le_one (fun timer hmem => (howns.remembers hmem).2)
  · intro later hlater id hgiven
    have hrenews := (hlater.renews h.sound).2
    exact ⟨fun hgone source => Rig.onTimer_of_state_ne (hrenews.state_ne hgiven hgone) source,
      fun hgone state => Rig.onTimer_of_phase_ne (hrenews.phase_ne hgiven hgone) state⟩

/-- The screen is switched off and on again, which cancels the timer that leads to nap. -/
def MachineRun.atGlance : MachineRun Probe :=
  (start ⟨{}, {}, {}⟩ (Policy.default {})).afterAll Probe.constraint
    [.handle (.event Action.screenOff), .handle (.event Action.screenOn)]

/-- Then the machine is stopped and started, and the screen is switched off once more. -/
def MachineRun.afterGlance : MachineRun Probe :=
  atGlance.afterAll Probe.constraint [.uninit, .init, .handle (.event Action.screenOff)]

/-- When the first timer is delivered at last, the machine waits for the second one. -/
theorem first_timer_stale_after_glance :
    MachineRun.afterGlance.rig.machine.stateTimer = some 2 ∧
    MachineRun.afterGlance.rig.host.timers.pending.countP (fun timer => timer.task.ofState) = 1 ∧
    MachineRun.afterGlance.rig.onTimer Probe.constraint MachineRun.afterGlance.policy 1
      (.transitNextState .dark) = MachineRun.afterGlance.rig := by
  have hreached : MachineRun.Reachable Probe.constraint MachineRun.Fires
      (.start ⟨{}, {}, {}⟩ (Policy.default {})) MachineRun.atGlance := by
    refine .afterAll .start (fun run move hmem id task hmove => ?_)
    rw [hmove] at hmem
    simp at hmem
  have hlater : MachineRun.Reachable Probe.constraint MachineRun.Fires
      MachineRun.atGlance MachineRun.afterGlance := by
    refine .afterAll .start (fun run move hmem id task hmove => ?_)
    rw [hmove] at hmem
    simp at hmem
  obtain ⟨-, -, -, hstale⟩ := machine_timers_sole_and_never_stale
    (fun timer hmem => by cases hmem) ⟨.nil, fun timer hmem => by cases hmem⟩ hreached
  exact ⟨by decide +kernel, by decide +kernel,
    (hstale _ hlater 1 (by decide +kernel)).1 (by decide +kernel) .dark⟩

end DeviceStandby
