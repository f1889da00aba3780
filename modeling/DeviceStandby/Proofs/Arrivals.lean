import DeviceStandby.Proofs.FailedTransitions
import DeviceStandby.Proofs.Journey
import DeviceStandby.Proofs.SoleTimers

/-!
# Entering a state, or standing still

What the machine has planned for a state, the deadline of nap and the back-offs included, is changed
only when a state is entered, and then as the plan says.  So a step is one of two things
(`Rig.Proceeds`): it enters a state along an edge, or the state that it is in once more; or the
machine stands still, whatever becomes of its timers and its phase.  `Rig.follows_moved` says this
of all moves, the start of a machine included.

That a state was entered can be seen from outside (`Rig.Arrives`): the machine was in another state
before, or it was blocked in this one and is so no longer.
-/

namespace DeviceStandby

/-- Whether the move does not replace the policy. -/
def MachineMove.LeavesPolicy {σ : Type} : MachineMove σ → Prop
  | reload _ => False
  | _ => True

/-- The machine is in the state, and remembers what was planned for it. -/
structure Machine.Follows (plan : EntryPlan) (next : State) (m : Machine) : Prop where
  current : m.current = next
  origin : m.maintenanceOrigin = plan.maintenanceOrigin
  napDeadline : m.napDeadline = plan.napDeadline
  napBackoff : m.napBackoff = plan.napBackoff
  sleepBackoff : m.sleepBackoff = plan.sleepBackoff

namespace Rig

variable {σ : Type} {judge : Constraint σ} {policy : Policy} {next : State}
  {rig before after : Rig σ}

/-! ## The same plan -/

/-- The machines may differ in what is scheduled, awaited or known of the screen, so that the same
is planned for both of them. -/
structure Readied (rig before : Rig σ) : Prop where
  machine : before.machine = { rig.machine with
    blocked := before.machine.blocked, screenOn := before.machine.screenOn
    charging := before.machine.charging, stateTimer := before.machine.stateTimer
    nextState := before.machine.nextState, phaseTimer := before.machine.phaseTimer
    awaited := before.machine.awaited, lockHeld := before.machine.lockHeld }
  timers : before.host.timers = rig.host.timers

namespace Readied

lemma refl (rig : Rig σ) : rig.Readied rig := ⟨rfl, rfl⟩

lemma trans {last : Rig σ} (first : rig.Readied before) (second : before.Readied last) :
    rig.Readied last where
  machine := by
    rw [second.machine, first.machine]
  timers := second.timers.trans first.timers

lemma noted (message : Message) (rig : Rig σ) : rig.Readied (rig.noted message) := ⟨rfl, rfl⟩

lemma of_ready {prepared : Rig σ} {constraint : σ}
    (ready : prepared = rig.cleared constraint ∨
      prepared = (rig.cleared constraint).acquireLock) : rig.Readied prepared := by
  obtain ⟨hmachine, htimers, -⟩ := ready_frame ready
  refine ⟨?_, htimers⟩
  rw [hmachine]

lemma current (h : rig.Readied before) : before.machine.current = rig.machine.current := by
  rw [h.machine]

lemma origin (h : rig.Readied before) :
    before.machine.maintenanceOrigin = rig.machine.maintenanceOrigin := by
  rw [h.machine]

lemma now (h : rig.Readied before) : before.host.now = rig.host.now :=
  congrArg TimerSource.now h.timers

lemma plan (h : rig.Readied before) (policy : Policy) (next : State) :
    before.plan policy next = rig.plan policy next := by
  unfold Rig.plan Host.now
  rw [h.timers, Machine.planEntry_congr policy _ next h.machine]

end Readied

/-! ## Steps -/

/-- The machine is led from its state to the next one, or enters its own state once more. -/
def Way (rig : Rig σ) (next : State) : Prop :=
  next = rig.machine.current ∨
    Edge (some rig.machine.maintenanceOrigin) rig.machine.current next

lemma Readied.way (h : rig.Readied before) : before.Way next ↔ rig.Way next := by
  unfold Way
  rw [h.current, h.origin]

lemma way_working (rig : Rig σ) : rig.Way .working := by
  by_cases hworking : rig.machine.current = .working
  · exact Or.inl hworking.symm
  · exact Or.inr (.wakeUp hworking)

/-- What a step comes to: a state is entered, or the machine stands still. -/
inductive Proceeds (policy : Policy) (rig after : Rig σ) : Prop where
  | enters {before : Rig σ} {next : State} (ready : rig.Readied before)
      (entered : before.enter policy next = (true, after)) (way : rig.Way next)
  /-- The machine stands still, and if it was blocked it stays so. -/
  | stands (kept : after.machine = { rig.machine with
        phase := after.machine.phase
        blocked := after.machine.blocked, screenOn := after.machine.screenOn
        charging := after.machine.charging, stateTimer := after.machine.stateTimer
        nextState := after.machine.nextState, phaseTimer := after.machine.phaseTimer
        awaited := after.machine.awaited, lockHeld := after.machine.lockHeld })
      (blocked : rig.machine.blocked = true → after.machine.blocked = true)

lemma Proceeds.of_readied (h : before.Proceeds policy after) (ready : rig.Readied before)
    (hblocked : rig.machine.blocked = true → before.machine.blocked = true) :
    rig.Proceeds policy after := by
  cases h with
  | enters later entered way => exact .enters (ready.trans later) entered (ready.way.1 way)
  | stands kept blocked =>
    refine .stands ?_ (fun h => blocked (hblocked h))
    rw [kept, ready.machine]

lemma proceeds_enterOrBlock (ready : rig.Readied before) (way : rig.Way next) :
    rig.Proceeds policy (before.enterOrBlock policy next) := by
  unfold enterOrBlock
  rcases enter_cases policy next before with ⟨-, -, henter⟩ | ⟨after, henter, -⟩
  · rw [henter]
    refine .stands ?_ (fun _ => ?_)
    · dsimp only
      rw [block_machine, cancelTimers_machine, ready.machine]
    · rw [block_machine]
  · rw [henter]
    exact .enters ready henter way

/-- A step enters a state, or the machine stands still. -/
theorem Step.proceeds {delivery : Delivery} (hstep : Step policy rig delivery after) :
    rig.Proceeds policy after := by
  cases hstep with
  | rest => exact .stands rfl id
  | wake constraint => exact proceeds_enterOrBlock ⟨rfl, rfl⟩ rig.way_working
  | dark idle =>
    refine proceeds_enterOrBlock (.refl rig) (Or.inr ?_)
    rw [(mayGoDark_iff.1 idle).1]
    exact .goDark
  | retry blocked =>
    rcases enter_cases policy rig.machine.current rig with ⟨-, -, henter⟩ | ⟨after, henter, -⟩
    · rw [henter]
      exact .stands rfl id
    · rw [henter]
      exact .enters (.refl rig) henter (Or.inl rfl)
  | depart constraint ready leads =>
    exact proceeds_enterOrBlock (.of_ready ready) (Or.inr leads.edge)
  | refuse constraint ready leads asked =>
    refine .stands ?_ (fun _ => ?_)
    · rw [block_machine, (ready_frame ready).1]
    · rw [block_machine]
  | await constraint ready leads asked unblocked =>
    obtain ⟨hmachine, -⟩ := ready_frame (Or.inr ready)
    refine .stands ?_ (fun hblocked => ?_)
    · rw [hmachine]
    · rw [hmachine]
      exact hblocked
  | phase constraint ahead =>
    refine .stands ?_ (fun hblocked => ?_)
    · rw [(settled_enterPhase _ _).machine]
      rfl
    · rw [enterPhase_blocked]
      exact hblocked
  | awaitPhase constraint ahead => exact .stands rfl id
  | endPhases constraint ahead =>
    refine .stands ?_ (fun hblocked => ?_)
    · rw [releaseLock_machine]
      rfl
    · rw [releaseLock_machine]
      exact hblocked

/-- Whatever happens but the start of the machine, it enters a state or stands still. -/
lemma proceeds_moved (judge : Constraint σ) (policy : Policy) (hsound : rig.machine.Sound)
    {move : MachineMove σ} (hmove : move ≠ .init) :
    rig.Proceeds policy (rig.moved judge policy move) := by
  cases move with
  | handle message =>
    exact (step_handleEvent judge policy message rig).proceeds.of_readied (.noted message rig) id
  | deliver id task => exact (step_onTimer judge policy hsound id task).proceeds
  | answer passed => exact (step_endEvaluation policy hsound passed).proceeds
  | init => exact absurd rfl hmove
  | uninit =>
    refine .stands ?_ (fun hblocked => ?_)
    all_goals rw [moved, uninit_machine]
    exact hblocked
  | refusePhase =>
    refine .stands ?_ (fun hblocked => ?_)
    all_goals rw [moved, refusePhase_machine]
    exact hblocked
  | host | reload | think => exact .stands rfl id

lemma Entered.follows (h : Entered policy next before after) :
    after.machine.Follows (before.plan policy next) next where
  current := h.current
  origin := congrArg Machine.maintenanceOrigin h.machine
  napDeadline := h.napDeadline
  napBackoff := congrArg Machine.napBackoff h.machine
  sleepBackoff := congrArg Machine.sleepBackoff h.machine

lemma entered_of_enter (h : before.enter policy next = (true, after)) :
    Entered policy next before after := by
  rcases enter_cases policy next before with ⟨-, -, henter⟩ | ⟨other, henter, hentered⟩
  · rw [henter] at h
    cases h
  · rw [henter] at h
    cases h
    exact hentered

/-- Whatever happens, the machine remembers what was planned for the state that it has entered, or
what it has remembered before. -/
theorem follows_moved (judge : Constraint σ) (policy : Policy) (hsound : rig.machine.Sound)
    (move : MachineMove σ) :
    (∃ next, rig.Way next ∧
      (rig.moved judge policy move).machine.Follows (rig.plan policy next) next) ∨
    (rig.moved judge policy move).machine.Follows rig.machine.idlePlan rig.machine.current := by
  by_cases hmove : move = .init
  · subst hmove
    exact Or.inl ⟨.working, rig.way_working, ⟨rfl, rfl, rfl, rfl, rfl⟩⟩
  · cases proceeds_moved judge policy hsound hmove with
    | @enters before next ready entered way =>
      refine Or.inl ⟨next, way, ?_⟩
      rw [← ready.plan]
      exact (entered_of_enter entered).follows
    | stands kept =>
      refine Or.inr ⟨?_, ?_, ?_, ?_, ?_⟩
      · rw [kept]
      all_goals
        rw [kept]
        rfl

/-! ## Arrivals -/

/-- The state was entered: the machine is in it, and has come from another one, or was blocked in it
and is so no longer. -/
def Arrives (next : State) (rig after : Rig σ) : Prop :=
  after.machine.current = next ∧
    (rig.machine.current = next → rig.machine.blocked = true ∧ after.machine.blocked = false)

/-- A machine that has arrived anywhere but in working has entered the state. -/
lemma entered_of_arrives (hsound : rig.machine.Sound) {move : MachineMove σ}
    (h : rig.Arrives next (rig.moved judge policy move)) (hnext : next ≠ .working) :
    rig.Way next ∧ ∃ before, rig.Readied before ∧
      before.enter policy next = (true, rig.moved judge policy move) := by
  obtain ⟨hcurrent, hfree⟩ := h
  have hmove : move ≠ .init := by
    rintro rfl
    exact hnext hcurrent.symm
  cases proceeds_moved judge policy hsound hmove with
  | @enters before target ready entered way =>
    obtain rfl : target = next := (entered_of_enter entered).current.symm.trans hcurrent
    exact ⟨way, before, ready, entered⟩
  | stands kept blocked =>
    obtain ⟨hblocked, hunblocked⟩ := hfree ((congrArg Machine.current kept).symm.trans hcurrent)
    rw [blocked hblocked] at hunblocked
    cases hunblocked

/-- When the machine has arrived in a state, it remembers what was planned for it. -/
lemma follows_of_arrives (hsound : rig.machine.Sound) {move : MachineMove σ}
    (h : rig.Arrives next (rig.moved judge policy move)) (hnext : next ≠ .working) :
    rig.Way next ∧ (rig.moved judge policy move).machine.Follows (rig.plan policy next) next := by
  obtain ⟨way, before, ready, entered⟩ := entered_of_arrives hsound h hnext
  refine ⟨way, ?_⟩
  rw [← ready.plan]
  exact (entered_of_enter entered).follows

/-- The timer of the state that the machine is in was armed as planned, at that time. -/
def Armed (now : Int) (planned : Option (Nat × State)) (rig : Rig σ) : Prop :=
  rig.machine.nextState = planned.map (·.2) ∧
  match planned with
  | none => rig.machine.stateTimer = none
  | some (delay, _) => ∃ timer ∈ rig.host.timers.pending,
    rig.machine.stateTimer = some timer.id ∧
      timer.task = .transitNextState rig.machine.current ∧ timer.due = now + wrap64 delay

lemma Entered.armedAs (h : Entered policy next before after)
    (hcounted : before.host.timers.Counted) :
    after.Armed before.host.now (before.plan policy next).timer := by
  refine ⟨h.nextState, ?_⟩
  have htimer := h.timer
  cases hplan : (before.plan policy next).timer with
  | none =>
    rw [hplan] at htimer
    exact Option.not_isSome_iff_eq_none.1 (by rw [htimer]; decide)
  | some planned =>
    rw [hplan] at htimer
    obtain ⟨id, hid⟩ := Option.isSome_iff_exists.1 htimer
    obtain ⟨timer, hmem, rfl, htask⟩ := h.armed id hid
    obtain ⟨delay, target, hdelay, hdue⟩ := h.due hcounted timer hmem hid
    cases hplan.symm.trans hdelay
    exact ⟨timer, hmem, hid, by rw [htask, h.current], hdue⟩

/-- When the machine has arrived in a state, its timer is armed as planned. -/
lemma armed_of_arrives (hsound : rig.machine.Sound) (hcounted : rig.host.timers.Counted)
    {move : MachineMove σ} (h : rig.Arrives next (rig.moved judge policy move))
    (hnext : next ≠ .working) :
    (rig.moved judge policy move).Armed rig.host.now (rig.plan policy next).timer := by
  obtain ⟨-, before, ready, entered⟩ := entered_of_arrives hsound h hnext
  have harmed := (entered_of_enter entered).armedAs (by rwa [ready.timers])
  rwa [ready.plan, ready.now] at harmed

end Rig

/-! ## Runs -/

namespace MachineRun.Reachable

variable {σ : Type} {judge : Constraint σ} {Allows : MachineRun σ → MachineMove σ → Prop}
  {rig : Rig σ} {policy : Policy} {start run : MachineRun σ}

/-- If no move replaces the policy, it stays the same. -/
lemma policy_eq (h : Reachable judge Allows start run)
    (hallows : ∀ run move, Allows run move → move.LeavesPolicy) : run.policy = start.policy := by
  induction h with
  | start => rfl
  | @move run move _ allowed ih =>
    cases move with
    | reload => exact (hallows _ _ allowed).elim
    | _ => exact ih

/-- The numbers of the armed timers are in order wherever a run gets. -/
lemma ordered (h : Reachable judge Allows (.start rig policy) run)
    (hordered : rig.host.timers.Ordered) : run.rig.host.timers.Ordered :=
  (h.renews (Rig.sound_init rig)).2.ordered ((Rig.renews_init rig).ordered hordered)

end MachineRun.Reachable

end DeviceStandby
