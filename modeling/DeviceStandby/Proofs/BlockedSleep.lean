import DeviceStandby.Proofs.Arrivals
import DeviceStandby.Proofs.LateAnswers
import DeviceStandby.Proofs.SleepPhases

/-!
# Sleep after a block

A machine that could not leave sleep has given up its phases: it has no timer for the next one and
waits for no answer about it.  The next event makes it enter sleep once more, and that arms the
timer of the state and lets the wake lock go, but does not take the phases up again.  So the phase
stays what it is to the end of this stay (`Rig.Dormant`), and only a sleep that is entered from
another state is walked through anew (`Rig.Striding`).
-/

namespace DeviceStandby

namespace Rig

variable {σ : Type} {judge : Constraint σ} {policy : Policy} {rig after : Rig σ} {phase : Nat}

/-! ## Without further phases -/

/-- The machine sleeps in this phase, and neither waits for the timer of the next one nor for an
answer about it. -/
structure Dormant (phase : Nat) (rig : Rig σ) : Prop where
  sound : rig.machine.Sound
  sleeps : rig.machine.current = .sleep
  phaseTimer : rig.machine.phaseTimer = none
  awaited : rig.machine.awaited = none
  phase_eq : rig.machine.phase = phase

/-- A machine that is blocked in sleep has given up its phases. -/
lemma dormant_of_blocked (hsound : rig.machine.Sound) (hsleeps : rig.machine.current = .sleep)
    (hblocked : rig.machine.blocked = true) : rig.Dormant rig.machine.phase where
  sound := hsound
  sleeps := hsleeps
  phaseTimer := hsound.phaseTimer_eq_none_of_blocked hblocked
  awaited := (hsound.blocked hblocked).2.2
  phase_eq := rfl

lemma noted_of_silent {message : Message} (huse : ¬ tellsUse message)
    (hrest : ¬ tellsRest message) (rig : Rig σ) : rig.noted message = rig := by
  simp only [tellsUse, tellsRest, not_or] at huse hrest
  simp [noted, huse, hrest]

/-- Unless it tells of a device in use, a message makes a sleeping machine try again at most. -/
lemma handleEvent_of_asleep (hsleeps : rig.machine.current = .sleep) {message : Message}
    (huse : ¬ tellsUse message) : rig.handleEvent judge policy message =
      if message.kind = .commonEvent ∨ message.kind = .deviceStateChanged
        then (rig.noted message).retryIfBlocked policy else rig := by
  by_cases hrest : tellsRest message
  · have hretries : message.kind = .commonEvent ∨ message.kind = .deviceStateChanged :=
      retries_of_tells (σ := σ) (Or.inr hrest)
    have hstays : ¬ mayGoDark (rig.noted message).machine = true := by
      intro hidle
      have hworking : rig.machine.current = .working := (mayGoDark_iff.1 hidle).1
      rw [hsleeps] at hworking
      cases hworking
    rw [handleEvent_of_tellsRest hrest, goDarkOrRetry, if_neg hstays, if_pos hretries]
  · rw [handleEvent_of_silent judge policy rig huse hrest, noted_of_silent huse hrest]

/-- If timers can be armed, a machine that is blocked in sleep enters it once more. -/
lemma entered_of_asleep (hsleeps : rig.machine.current = .sleep)
    (hblocked : rig.machine.blocked = true) (harming : rig.host.timers.failing = false)
    {message : Message} (huse : ¬ tellsUse message)
    (hkind : message.kind = .commonEvent ∨ message.kind = .deviceStateChanged) :
    Entered policy .sleep (rig.noted message) (rig.handleEvent judge policy message) := by
  have hnoted : (rig.noted message).machine.current = .sleep := hsleeps
  have hstuck : (rig.noted message).machine.blocked = true := hblocked
  rw [handleEvent_of_asleep hsleeps huse, if_pos hkind, retryIfBlocked, if_pos hstuck]
  rcases retry_cases policy (rig.noted message) with ⟨hfailing, -⟩ | hentered
  · exact absurd (harming.symm.trans hfailing) (by decide)
  · rw [hnoted] at hentered ⊢
    exact hentered

namespace Dormant

/-- Whatever else is remembered and known does not matter. -/
lemma congr (h : rig.Dormant phase) (hsound : after.machine.Sound)
    (hcurrent : after.machine.current = rig.machine.current)
    (hphase : after.machine.phase = rig.machine.phase)
    (htimer : after.machine.phaseTimer = rig.machine.phaseTimer)
    (hawaited : after.machine.awaited = rig.machine.awaited) : after.Dormant phase where
  sound := hsound
  sleeps := hcurrent.trans h.sleeps
  phaseTimer := htimer.trans h.phaseTimer
  awaited := hawaited.trans h.awaited
  phase_eq := hphase.trans h.phase_eq

/-- To try again leaves the machine in its phase. -/
lemma retryIfBlocked (h : rig.Dormant phase) : (rig.retryIfBlocked policy).Dormant phase := by
  have hsound := (step_retryIfBlocked policy rig).sound h.sound
  by_cases hblocked : rig.machine.blocked = true
  · rw [Rig.retryIfBlocked, if_pos hblocked] at hsound ⊢
    rcases retry_cases policy rig with ⟨-, hrefused⟩ | hentered
    · rw [hrefused] at hsound ⊢
      exact h.congr hsound rfl rfl h.phaseTimer.symm rfl
    · have hphase := hentered.phase
      rw [if_pos rfl] at hphase
      refine ⟨hsound, hentered.current.trans h.sleeps, ?_, hentered.awaited,
        hphase.trans h.phase_eq⟩
      -- Phases are scheduled only in a state that is new.
      refine Option.not_isSome_iff_eq_none.1 (fun hsome => ?_)
      exact (hentered.phases hsome).1 rfl
  · rwa [Rig.retryIfBlocked, if_neg hblocked]

/-- A timer leads the machine out of sleep, or leaves it blocked there, or is stale. -/
lemma onTimer (h : rig.Dormant phase) (id : TimerId) (task : TimerTask)
    (hsleeps : (rig.onTimer judge policy id task).machine.current = .sleep) :
    (rig.onTimer judge policy id task).Dormant phase := by
  have hstep := step_onTimer judge policy h.sound id task
  have hsound := hstep.sound h.sound
  have hnone : rig.phaseDelivery = none := by
    rw [phaseDelivery, h.phaseTimer]
    rfl
  generalize rig.onTimer judge policy id task = after at hstep hsound hsleeps ⊢
  generalize hdelivery : some (id, task) = delivery at hstep
  cases hstep with
  | rest => exact h
  | wake | dark | retry => cases hdelivery
  | @depart prepared next constraint ready leads =>
    rcases enterOrBlock_cases policy next prepared with ⟨-, -, hrefused⟩ | hentered
    · rw [hrefused] at hsound ⊢
      refine h.congr hsound ?_ ?_ ?_ ?_
      all_goals rw [block_machine, cancelTimers_machine]
      · rw [(ready_frame ready).1]
      · rw [(ready_frame ready).1]
      · exact h.phaseTimer.symm
      · exact h.awaited.symm
    · exact absurd (h.sleeps.trans (hsleeps.symm.trans hentered.current)) leads.edge.ne
  | refuse constraint ready leads asked | await constraint ready leads asked =>
    exact absurd h.sleeps (leads.ne_sleep asked)
  | phase | awaitPhase | endPhases =>
    rw [hnone] at hdelivery
    cases hdelivery

/-- As long as the machine sleeps, it enters no further phase. -/
lemma moved (h : rig.Dormant phase) (move : MachineMove σ)
    (hsleeps : (rig.moved judge policy move).machine.current = .sleep) :
    (rig.moved judge policy move).Dormant phase := by
  have hsound : (rig.moved judge policy move).machine.Sound := sound_moved h.sound move
  cases move with
  | handle message =>
    by_cases huse : tellsUse message
    · have hworking := (handleEvent_of_tellsUse judge policy rig huse).1
      exact absurd (hsleeps.symm.trans hworking) (by decide)
    · have hnoted : (rig.noted message).Dormant phase :=
        h.congr (h.sound.noted _ _) rfl rfl rfl rfl
      rw [Rig.moved, handleEvent_of_asleep h.sleeps huse]
      split
      · exact hnoted.retryIfBlocked
      · exact h
  | deliver id task => exact h.onTimer id task hsleeps
  | answer passed =>
    rw [Rig.moved, endEvaluation_of_none _ policy passed h.awaited]
    exact h
  | init => cases hsleeps
  | uninit =>
    refine h.congr hsound ?_ ?_ ?_ ?_
    all_goals rw [Rig.moved, uninit_machine]
    · exact h.phaseTimer.symm
    · exact h.awaited.symm
  | refusePhase =>
    refine h.congr hsound ?_ ?_ ?_ ?_
    all_goals rw [Rig.moved, refusePhase_machine]
    exact h.phaseTimer.symm
  | host | reload | think => exact h.congr hsound rfl rfl rfl rfl

end Dormant

/-! ## With phases ahead -/

/-- The machine sleeps, timers can be armed, and the one for its next phase is armed and due. -/
structure Striding (rig : Rig σ) : Prop where
  sleeps : rig.machine.current = .sleep
  arming : rig.host.timers.failing = false
  armed : ∃ timer ∈ rig.host.timers.pending, rig.machine.phaseTimer = some timer.id ∧
    timer.task = .transitNextPhase .sleep ∧ timer.due = rig.host.now

lemma striding_armPhaseTimer (hsleeps : rig.machine.current = .sleep)
    (harming : rig.host.timers.failing = false) : rig.armPhaseTimer.Striding := by
  obtain ⟨hnumber, hpending⟩ :=
    rig.host.arm_of_works 0 (.transitNextPhase rig.machine.current) harming
  have hnow := rig.host.arm_now 0 (.transitNextPhase rig.machine.current)
  have hfailing := rig.host.arm_failing 0 (.transitNextPhase rig.machine.current)
  unfold armPhaseTimer
  rcases harm : rig.host.arm 0 (.transitNextPhase rig.machine.current) with ⟨number, host⟩
  rw [harm] at hnumber hpending hnow hfailing
  obtain rfl : number = some rig.host.timers.nextId := hnumber
  refine ⟨hsleeps, hfailing.trans harming,
    ⟨rig.host.timers.nextId, rig.host.now + wrap64 0, .transitNextPhase rig.machine.current⟩,
    ?_, rfl, ?_, ?_⟩
  · exact hpending ▸ List.mem_append_right _ (List.mem_singleton_self _)
  · rw [hsleeps]
  · rw [show wrap64 0 = 0 by decide, Int.add_zero]
    exact hnow.symm

lemma striding_arrive {previous : State} (hnew : previous ≠ .sleep)
    (hsleeps : rig.machine.current = .sleep) (harming : rig.host.timers.failing = false) :
    (arrive previous rig).Striding := by
  unfold arrive
  dsimp only
  rw [if_neg (by rw [hsleeps]; exact hnew), if_pos hsleeps]
  refine striding_armPhaseTimer hsleeps ?_
  rw [Host.audit_timers, Host.announce_timers]
  exact harming

/-- A sleep that is entered from another state has its phases ahead. -/
lemma striding_of_enter (hawake : rig.machine.current ≠ .sleep)
    (harming : rig.host.timers.failing = false)
    (h : rig.enter policy .sleep = (true, after)) : after.Striding := by
  have hcancelled : rig.cancelTimers.host.timers.failing = false := by
    simpa [cancelTimers] using harming
  unfold enter at h
  dsimp only at h
  split at h
  · cases h
    exact striding_arrive hawake rfl hcancelled
  · rename_i delay target hplan
    split at h
    · cases h
    · rename_i number host harm
      cases h
      have hfailing := rig.cancelTimers.host.arm_failing delay (.transitNextState .sleep)
      rw [harm] at hfailing
      exact striding_arrive hawake rfl (hfailing.trans hcancelled)

lemma enterPhase_phase (next : Nat) (rig : Rig σ) :
    (rig.enterPhase next).machine.phase = next := by
  rw [(settled_enterPhase next rig).machine]
  rfl

/-- Unless it is the last phase, there is another one ahead. -/
lemma striding_enterPhase {next : Nat} (hnext : next < Machine.finalPhase)
    (hsleeps : rig.machine.current = .sleep) (harming : rig.host.timers.failing = false) :
    (rig.enterPhase next).Striding := by
  unfold enterPhase
  dsimp only
  rw [if_neg (Nat.not_le.2 hnext)]
  refine striding_armPhaseTimer hsleeps ?_
  rw [Host.announce_timers]
  exact harming

/-- If the constraint lets everything pass, the next phase is entered when its timer comes. -/
lemma onTimer_of_passes (policy : Policy) (rig : Rig σ) (hpasses : ∀ question devices state,
      (judge.start question devices state).1 = .pass) {id : TimerId}
    (hsleeps : rig.machine.current = .sleep) (hid : rig.machine.phaseTimer = some id) :
    ∃ constraint, rig.onTimer judge policy id (.transitNextPhase .sleep) =
      enterPhase (rig.machine.phase + 1)
        { rig with constraint, machine := { rig.machine with phaseTimer := none } } := by
  let lulled : Rig σ := { rig with machine := { rig.machine with phaseTimer := none } }
  let later := (judge.start (phaseQuestion lulled.machine) rig.host.devices rig.constraint).2
  have hask : lulled.ask judge (phaseQuestion lulled.machine) =
      (.pass, { lulled with constraint := later }) :=
    Prod.ext (hpasses _ _ _) rfl
  refine ⟨later, ?_⟩
  unfold onTimer
  dsimp only
  rw [if_pos (by simp [hid, hsleeps]), advancePhase, hask]

end Rig

/-! ## Runs -/

namespace MachineRun

variable {σ : Type} {judge : Constraint σ} {run later : MachineRun σ} {phase : Nat}

/-- Whether the machine sleeps after the move; timers fire before they are delivered. -/
def StaysAsleep (judge : Constraint σ) (run : MachineRun σ) (move : MachineMove σ) : Prop :=
  run.Fires move ∧ (run.after judge move).rig.machine.current = .sleep

/-- A stay in sleep without further phases ends in the same phase. -/
lemma Reachable.dormant (h : Reachable judge (StaysAsleep judge) run later)
    (hdormant : run.rig.Dormant phase) (howns : run.rig.Owns) :
    later.rig.Dormant phase ∧ later.rig.Owns := by
  induction h with
  | start => exact ⟨hdormant, howns⟩
  | move _ allowed ih =>
    obtain ⟨hdormant, howns⟩ := ih
    exact ⟨hdormant.moved _ allowed.2, howns.moved hdormant.sound allowed.1⟩

/-- Where a run gets when the timer for the next phase, if there is one, fires at once and is
delivered. -/
def strode (judge : Constraint σ) (run : MachineRun σ) : MachineRun σ :=
  match run.rig.machine.phaseTimer with
  | none => run
  | some id => run.afterAll judge [.host (.advance 0), .deliver id (.transitNextPhase .sleep)]

/-- A stay in sleep with phases ahead, which the constraint lets pass, gets to the next phase. -/
lemma reachable_strode (hpasses : ∀ question devices state,
      (judge.start question devices state).1 = .pass)
    (hordered : run.rig.host.timers.Ordered) (h : run.rig.Striding) :
    Reachable judge (StaysAsleep judge) run (run.strode judge) ∧
    (run.strode judge).rig.machine.phase = run.rig.machine.phase + 1 ∧
    (run.rig.machine.phase + 1 < Machine.finalPhase →
      (run.strode judge).rig.Striding) := by
  obtain ⟨hsleeps, harming, timer, hmem, hid, -, hdue⟩ := h
  rw [strode, hid]
  -- The timer has fired when the clock is looked at next, and no other one has its number.
  let fired : MachineRun σ := run.after judge (.host (.advance 0))
  have hfires : fired.Fires (.deliver timer.id (.transitNextPhase .sleep)) := by
    rintro _ _ ⟨⟩ other hother hsame
    obtain ⟨hold, hlater⟩ := List.mem_filter.1 hother
    rw [hordered.eq_of_id hold hmem hsame, hdue] at hlater
    simp [Host.now, wrap64] at hlater
  let last : MachineRun σ := fired.after judge (.deliver timer.id (.transitNextPhase .sleep))
  obtain ⟨constraint, hlast⟩ : ∃ constraint, last.rig =
      Rig.enterPhase (run.rig.machine.phase + 1) { fired.rig with
        constraint, machine := { fired.rig.machine with phaseTimer := none } } :=
    Rig.onTimer_of_passes run.policy fired.rig hpasses hsleeps hid
  have hasleep : last.rig.machine.current = .sleep := by
    rw [hlast, (Rig.settled_enterPhase _ _).machine]
    exact hsleeps
  refine ⟨?_, ?_, fun hahead => ?_⟩
  · exact .move (.move .start ⟨(fun id task hmove => by cases hmove), hsleeps⟩) ⟨hfires, hasleep⟩
  · show last.rig.machine.phase = _
    rw [hlast, Rig.enterPhase_phase]
  · show last.rig.Striding
    rw [hlast]
    exact Rig.striding_enterPhase hahead hsleeps harming

/-- From the first phase it takes two timers to the last one. -/
lemma reachable_finalPhase (hpasses : ∀ question devices state,
      (judge.start question devices state).1 = .pass)
    (hsound : run.rig.machine.Sound) (hordered : run.rig.host.timers.Ordered)
    (h : run.rig.Striding) (hphase : run.rig.machine.phase = 0) :
    Reachable judge (StaysAsleep judge) run ((run.strode judge).strode judge) ∧
    ((run.strode judge).strode judge).rig.machine.phase = Machine.finalPhase := by
  obtain ⟨hfirst, hone, hstriding⟩ := reachable_strode hpasses hordered h
  have hrenews := (hfirst.renews hsound).2
  obtain ⟨hsecond, htwo, -⟩ := reachable_strode hpasses (hrenews.ordered hordered)
    (hstriding (by rw [hphase]; decide))
  rw [hone, hphase] at htwo
  exact ⟨hfirst.trans hsecond, htwo⟩

/-- Where sleep is entered from another state and timers can be armed, it is walked through. -/
lemma striding_after (hsound : run.rig.machine.Sound)
    (harming : run.rig.host.timers.failing = false) {move : MachineMove σ}
    (hawake : run.rig.machine.current ≠ .sleep)
    (hsleeps : (run.after judge move).rig.machine.current = .sleep) :
    (run.after judge move).rig.Striding := by
  have harrives : run.rig.Arrives .sleep (run.after judge move).rig :=
    ⟨hsleeps, fun hsame => absurd hsame hawake⟩
  obtain ⟨-, before, ready, entered⟩ := Rig.entered_of_arrives hsound harrives (by decide)
  refine Rig.striding_of_enter ?_ ?_ entered
  · rw [ready.current]
    exact hawake
  · rw [ready.timers]
    exact harming

end MachineRun

/-- In a run of a new machine, whatever has happened in it, let the machine be blocked in sleep, and
let a message come that makes it try again while timers can be armed.

If the message tells that the device is in use, the machine is in working and not blocked.

Otherwise it sleeps on and is not blocked.  The timer of sleep is armed as for any entry of sleep,
and the wake lock is let go; but the phase stays the same, and no timer for the next phase is armed,
neither then nor later as long as the machine sleeps, whatever happens.

The phases begin anew when sleep is entered the next time from another state while timers can be
armed: the machine is in the first phase, and the timer for the next one is armed and due.  If the
constraint lets everything pass, two such timers, delivered one after the other, take the machine to
the last phase in the same stay. -/
theorem unblocked_sleep_goes_without_phases {σ : Type} {judge : Constraint σ} {host : Host}
    {constraint : σ} {policy : Policy} {run : MachineRun σ} {message : Message}
    (hunarmed : Rig.Unarmed host) (hordered : host.timers.Ordered)
    (h : MachineRun.Reachable judge MachineRun.Fires (.start ⟨{}, host, constraint⟩ policy) run)
    (hsleeps : run.rig.machine.current = .sleep) (hblocked : run.rig.machine.blocked = true)
    (hkind : message.kind = .commonEvent ∨ message.kind = .deviceStateChanged)
    (harming : run.rig.host.timers.failing = false) :
    (Rig.tellsUse message →
      (run.after judge (.handle message)).rig.machine.current = .working ∧
      (run.after judge (.handle message)).rig.machine.blocked = false) ∧
    (¬ Rig.tellsUse message →
      (run.after judge (.handle message)).rig.machine.current = .sleep ∧
      (run.after judge (.handle message)).rig.machine.blocked = false ∧
      (run.after judge (.handle message)).rig.machine.lockHeld = false ∧
      (run.after judge (.handle message)).rig.Armed run.rig.host.now
        (run.rig.plan run.policy .sleep).timer ∧
      ∀ later, MachineRun.Reachable judge (MachineRun.StaysAsleep judge)
          (run.after judge (.handle message)) later →
        later.rig.machine.phase = run.rig.machine.phase ∧
        ∀ timer ∈ later.rig.host.timers.pending, timer.task.ofPhase = false) ∧
    (∀ later,
      MachineRun.Reachable judge MachineRun.Fires (run.after judge (.handle message)) later →
      ∀ move, later.rig.machine.current ≠ .sleep →
        (later.after judge move).rig.machine.current = .sleep →
        later.rig.host.timers.failing = false →
        (later.after judge move).rig.machine.phase = 0 ∧ (later.after judge move).rig.Striding ∧
        ((∀ question devices state, (judge.start question devices state).1 = .pass) →
          MachineRun.Reachable judge (MachineRun.StaysAsleep judge) (later.after judge move)
            (((later.after judge move).strode judge).strode judge) ∧
          (((later.after judge move).strode judge).strode judge).rig.machine.phase =
            Machine.finalPhase)) := by
  have hsound := h.sound
  have hfires : run.Fires (.handle message) := fun id task hmove => by cases hmove
  have hafter : MachineRun.Reachable judge MachineRun.Fires (.start ⟨{}, host, constraint⟩ policy)
      (run.after judge (.handle message)) := h.move hfires
  have hdormant := Rig.dormant_of_blocked hsound hsleeps hblocked
  refine ⟨fun huse => Rig.handleEvent_of_tellsUse judge run.policy run.rig huse, fun huse => ?_,
    fun later hlater move hawake hasleep hworks => ?_⟩
  · have hentered : Rig.Entered run.policy .sleep (run.rig.noted message)
        (run.after judge (.handle message)).rig :=
      Rig.entered_of_asleep hsleeps hblocked harming huse hkind
    have hstays : (run.after judge (.handle message)).rig.Dormant run.rig.machine.phase :=
      (Rig.dormant_of_blocked hsound hsleeps hblocked).moved _ hentered.current
    refine ⟨hentered.current, hentered.unblocked, ?_, ?_, fun later hlater => ?_⟩
    · refine Bool.eq_false_iff.2 (fun hheld => ?_)
      have hsome := hentered.lock hheld
      rw [hstays.phaseTimer] at hsome
      cases hsome
    · exact Rig.armed_of_arrives hsound (h.ordered hordered).counted
        ⟨hentered.current, fun _ => ⟨hblocked, hentered.unblocked⟩⟩ (by decide)
    · obtain ⟨hlast, howns⟩ := hlater.dormant hstays (hafter.owns hunarmed)
      refine ⟨hlast.phase_eq, fun timer hmem => Bool.eq_false_iff.2 (fun hphase => ?_)⟩
      have hid := (howns.remembers hmem).2 hphase
      rw [hlast.phaseTimer] at hid
      cases hid
  · obtain ⟨hlast, hrenews⟩ := hlater.renews hafter.sound
    have hstriding := MachineRun.striding_after hlast hworks hawake hasleep
    have hphase : (later.after judge move).rig.machine.phase = 0 :=
      Rig.phase_of_changed hlast move (fun hsame => hawake (hsame.symm.trans hasleep))
    refine ⟨hphase, hstriding, fun hpasses => ?_⟩
    refine MachineRun.reachable_finalPhase hpasses (Rig.sound_moved hlast move) ?_ hstriding hphase
    have hlater := hrenews.ordered (hafter.ordered hordered)
    exact (Rig.renews_moved hlast move).ordered hlater

namespace MachineRun

/-- The constraint does not answer whether the next phase may be entered; meanwhile timers cannot be
armed any more, and the one for maintenance fires. -/
def unanswered : List (MachineMove Probe) :=
  [.host (.advance 0), .think { script := some .pending }, .deliver 3 (.transitNextPhase .sleep),
    .host (.fail .arm true), .host (.advance 3600000)]

/-- The device could not be led to maintenance; now timers can be armed again. -/
def stuck : MachineRun Probe :=
  (fallingAsleep.afterAll Probe.constraint unanswered).afterAll Probe.constraint
    [.deliver 2 (.transitNextState .sleep), .host (.fail .arm false)]

lemma stuck_reachable : Reachable Probe.constraint Fires
    (.start ⟨{}, {}, { script := some .pass }⟩ Policy.napless) stuck := by
  refine .move (.move (.move (.move (.move (.move (.move (.move (.move (.move .start
    ?_) ?_) ?_) ?_) ?_) ?_) ?_) ?_) ?_) ?_
  all_goals decide +kernel

/-- The device is led to maintenance after all, and the timer that leads back to sleep fires. -/
def refreshed : MachineRun Probe :=
  (stuck.after Probe.constraint (.handle (.deviceStateChanged 0 false))).afterAll Probe.constraint
    [.think { script := some .pass }, .host (.advance 3600000),
      .deliver 4 (.transitNextState .sleep), .host (.advance 60000)]

end MachineRun

/-- The device that was stuck sleeps on in the first phase, for another hour.  After that and a
minute of maintenance it has its phases ahead again. -/
theorem unblocked_sleep_of_stuck_device :
    (MachineRun.stuck.after Probe.constraint (.handle (.deviceStateChanged 0 false))).rig.Armed
      3900000 (some (3600000, .maintenance)) ∧
    MachineRun.stuck.rig.machine.phase = 0 ∧
    (∀ timer ∈ (MachineRun.stuck.after Probe.constraint
        (.handle (.deviceStateChanged 0 false))).rig.host.timers.pending,
      timer.task.ofPhase = false) ∧
    (MachineRun.refreshed.after Probe.constraint
      (.deliver 5 (.transitNextState .maintenance))).rig.Striding := by
  have hsilent : ¬ Rig.tellsUse (.deviceStateChanged 0 false) := by
    unfold Rig.tellsUse
    decide +kernel
  have hkind : (Message.deviceStateChanged 0 false).kind = .commonEvent ∨
      (Message.deviceStateChanged 0 false).kind = .deviceStateChanged := Or.inr rfl
  obtain ⟨-, hrest, hanew⟩ := unblocked_sleep_goes_without_phases
    (fun timer hmem => by cases hmem) .new
    MachineRun.stuck_reachable (by decide +kernel) (by decide +kernel) hkind (by decide +kernel)
  obtain ⟨-, -, -, harmed, hdormant⟩ := hrest hsilent
  have hrefreshed : MachineRun.Reachable Probe.constraint MachineRun.Fires
      (MachineRun.stuck.after Probe.constraint (.handle (.deviceStateChanged 0 false)))
      MachineRun.refreshed := by
    refine .move (.move (.move (.move .start ?_) ?_) ?_) ?_
    all_goals decide +kernel
  obtain ⟨-, hstriding, -⟩ := hanew _ hrefreshed (.deliver 5 (.transitNextState .maintenance))
    (by decide +kernel) (by decide +kernel) (by decide +kernel)
  have hplan : (MachineRun.stuck.rig.plan MachineRun.stuck.policy .sleep).timer =
      some (3600000, .maintenance) := by decide +kernel
  have hnow : MachineRun.stuck.rig.host.now = 3900000 := by decide +kernel
  rw [hplan, hnow] at harmed
  exact ⟨harmed, by decide +kernel, (hdormant _ .start).2, hstriding⟩

/-- From falling asleep until it was stuck, the device had at any time a timer for the next phase or
an answer about it to wait for; so no step to a phase was vetoed, and the timer for each was armed.
Yet when the block is left, and timers can be armed, none is armed for the next phase, although
there is one ahead. -/
theorem phases_do_not_survive_block :
    MachineRun.bedtime.rig.machine.current = .dark ∧
    MachineRun.fallingAsleep.rig.machine.current = .sleep ∧
    (∀ n ≤ MachineRun.unanswered.length,
      (MachineRun.fallingAsleep.afterAll Probe.constraint
        (MachineRun.unanswered.take n)).rig.machine.phaseTimer.isSome = true ∨
      (MachineRun.fallingAsleep.afterAll Probe.constraint
        (MachineRun.unanswered.take n)).rig.machine.awaited = some (.phase 1)) ∧
    MachineRun.Reachable Probe.constraint MachineRun.Fires
      (.start ⟨{}, {}, { script := some .pass }⟩ Policy.napless) MachineRun.stuck ∧
    MachineRun.stuck.rig.machine.current = .sleep ∧
    MachineRun.stuck.rig.machine.blocked = true ∧
    MachineRun.stuck.rig.machine.phase < Machine.finalPhase ∧
    MachineRun.stuck.rig.host.timers.failing = false ∧
    (MachineRun.stuck.after Probe.constraint
      (.handle (.deviceStateChanged 0 false))).rig.machine.current = .sleep ∧
    (MachineRun.stuck.after Probe.constraint
      (.handle (.deviceStateChanged 0 false))).rig.machine.blocked = false ∧
    (MachineRun.stuck.after Probe.constraint
      (.handle (.deviceStateChanged 0 false))).rig.machine.phase < Machine.finalPhase ∧
    ∀ timer ∈ (MachineRun.stuck.after Probe.constraint
        (.handle (.deviceStateChanged 0 false))).rig.host.timers.pending,
      timer.task ≠ .transitNextPhase .sleep := by
  refine ⟨by decide +kernel, by decide +kernel, by decide +kernel, MachineRun.stuck_reachable, ?_⟩
  decide +kernel

end DeviceStandby
