import DeviceStandby.Proofs.EngineMachine
import DeviceStandby.Proofs.ReadTimes
import DeviceStandby.Proofs.StateTimers

/-!
# What a timer can set in motion without time going by

Timeouts may be zero, so the timer of a state may be due as soon as it is armed, and the timer of a
phase always is.  But the way back to maintenance takes an interval, and day and night are never
less than a second apart (`Policy.Spaced`).  So among the timers that are due none leads to
maintenance, unless it was armed before (`Step.maintains`), and without maintenance the way through
the states is short: `Machine.momentum` bounds how many steps of it are left.  A timer that is
delivered uses some of it up, or else arms nothing that is due (`Step.slows`).
-/

namespace DeviceStandby

/-! ## Intervals -/

/-- The intervals until maintenance, and the time until day or night begins, take some time. -/
structure Policy.Spaced (policy : Policy) : Prop where
  intervals : ∀ interval ∈ policy.napIntervals ++ policy.sleepIntervals,
    0 < wrap64 (interval * 1000 : Nat)
  edges : ∀ second < secondsPerDay, 0 < wrap64 (policy.night.untilNextEdge second * 1000 : Nat)

lemma wrap64_pos {number : Nat} (hpos : 0 < number)
    (hfits : (number : Int) ≤ Width.int64.greatest) : 0 < wrap64 number := by
  rw [wrap64_of_le (Int.natCast_nonneg _) hfits]
  omega

/-- A time of day that was read is one. -/
lemma TimeText.seconds_lt {text : String} {time : ClockTime} (h : parse? text = some time) :
    time.seconds < secondsPerDay := by
  obtain ⟨hhour, hminute⟩ := range_of_parse? h
  simp only [ClockTime.seconds, secondsPerDay]
  omega

lemma nightOr_seconds_lt (settings : Option NightSettings) :
    (nightOr settings).start.seconds < secondsPerDay ∧
      (nightOr settings).stop.seconds < secondsPerDay := by
  unfold nightOr
  split
  · split
    · rename_i hstart hstop
      exact ⟨TimeText.seconds_lt hstart, TimeText.seconds_lt hstop⟩
    · decide
  · decide

lemma Moment.secondOfDay_lt (moment : Moment) : moment.secondOfDay < secondsPerDay := by
  simp only [secondOfDay, secondsPerDay]
  omega

/-- The next time that the clock shows something is later, and within a day. -/
lemma DailyWindow.secondsUntil_mem {second edge : Nat} (hsecond : second < secondsPerDay)
    (hedge : edge < secondsPerDay) :
    0 < secondsUntil second edge ∧ secondsUntil second edge ≤ secondsPerDay := by
  unfold secondsUntil
  split <;> omega

/-- A policy that was read from a file is spaced, if its intervals can be told in milliseconds. -/
theorem Policy.spaced_ofFile (env : Environment) (file : ConfigFile)
    (hfits : ∀ interval ∈ (ofFile env file).napIntervals ++ (ofFile env file).sleepIntervals,
      ((interval * 1000 : Nat) : Int) ≤ Width.int64.greatest) : (ofFile env file).Spaced where
  intervals := by
    intro interval hmem
    have hpos : 0 < interval := by
      rcases List.mem_append.1 hmem with hmem | hmem
      · exact (paced_ofFile env file).nap interval hmem
      · exact (paced_ofFile env file).sleep interval hmem
    exact wrap64_pos (by omega) (hfits interval hmem)
  edges := by
    intro second hsecond
    obtain ⟨hstart, hstop⟩ := nightOr_seconds_lt file.night
    obtain ⟨hpos, hle⟩ := DailyWindow.secondsUntil_mem hsecond hstart
    obtain ⟨hpos', -⟩ := DailyWindow.secondsUntil_mem hsecond hstop
    have hedge : (ofFile env file).night.untilNextEdge second =
        min (DailyWindow.secondsUntil second (nightOr file.night).start.seconds)
          (DailyWindow.secondsUntil second (nightOr file.night).stop.seconds) := rfl
    have hgreatest : Width.int64.greatest = 0x7FFFFFFFFFFFFFFF := rfl
    rw [hedge]
    simp only [secondsPerDay] at hle
    exact wrap64_pos (by omega) (by omega)

namespace Machine

variable {policy : Policy} {m after : Machine} {timer : ArmedTimer} {next : State}

/-! ## Momentum -/

/-- How many timers at most can make the machine go on, one after the other and without delay. -/
def momentum (m : Machine) : Nat :=
  match m.current with
  | .working => 0
  | .dark | .maintenance => finalPhase + 2
  | .nap => finalPhase + 1
  | .sleep => if m.phaseTimer.isSome then finalPhase - m.phase else 0

lemma momentum_le (m : Machine) : m.momentum ≤ finalPhase + 2 := by
  unfold momentum
  split
  · omega
  · omega
  · omega
  · omega
  · split <;> omega

lemma momentum_le_of_sleep (h : m.current = .sleep) : m.momentum ≤ finalPhase - m.phase := by
  unfold momentum
  rw [h]
  dsimp only
  split <;> omega

/-- In the same state only a new phase timer adds to the momentum. -/
lemma momentum_mono (hcurrent : after.current = m.current) (hphase : after.phase = m.phase)
    (htimer : after.phaseTimer.isSome = true → m.phaseTimer.isSome = true) :
    after.momentum ≤ m.momentum := by
  unfold momentum
  rw [hcurrent, hphase]
  split
  · exact Nat.le_refl _
  · exact Nat.le_refl _
  · exact Nat.le_refl _
  · exact Nat.le_refl _
  · split
    · rename_i hsome
      rw [if_pos (htimer hsome)]
    · exact Nat.zero_le _

/-- Wherever a timer leads but to maintenance, there is less momentum. -/
lemma Leads.momentum_lt (h : m.Leads next) (hnext : next ≠ .maintenance)
    (hafter : after.current = next) : after.momentum < m.momentum := by
  have hstandby : next = .nap ∧ m.current ≠ .nap ∨ next = .sleep := by
    unfold Leads at h
    cases hcurrent : m.current with
    | working =>
      rw [hcurrent] at h
      exact h.elim
    | dark =>
      rw [hcurrent] at h
      exact h.imp_left (fun hnap => ⟨hnap, by decide⟩)
    | nap =>
      rw [hcurrent] at h
      exact Or.inr (h.resolve_left hnext)
    | maintenance =>
      rw [hcurrent] at h
      exact h.2.imp_left (fun hnap => ⟨hnap, by decide⟩)
    | sleep =>
      rw [hcurrent] at h
      exact absurd h hnext
  have hawake := h.ne_working
  rcases hstandby with ⟨rfl, hnap⟩ | rfl
  · have hasleep := h.ne_sleep (Or.inl rfl)
    unfold momentum
    rw [hafter]
    cases hcurrent : m.current with
    | working => exact absurd hcurrent hawake
    | dark | maintenance => exact Nat.lt_succ_self _
    | nap => exact absurd hcurrent hnap
    | sleep => exact absurd hcurrent hasleep
  · have hasleep := h.ne_sleep (Or.inr rfl)
    refine Nat.lt_of_le_of_lt (momentum_le_of_sleep hafter) ?_
    unfold momentum
    cases hcurrent : m.current with
    | working => exact absurd hcurrent hawake
    | dark | maintenance | nap =>
      dsimp only
      omega
    | sleep => exact absurd hcurrent hasleep

/-! ## The way back to maintenance -/

/-- The timer leads to maintenance. -/
structure Maintains (m : Machine) (timer : ArmedTimer) : Prop where
  recorded : m.stateTimer = some timer.id
  leaves : timer.task = .transitNextState m.current
  target : m.nextState = some .maintenance

lemma Maintains.congr (h : after.Maintains timer) (hcurrent : after.current = m.current)
    (htimer : after.stateTimer = m.stateTimer) (hnext : after.nextState = m.nextState) :
    m.Maintains timer := by
  obtain ⟨hrecorded, hleaves, htarget⟩ := h
  exact ⟨htimer ▸ hrecorded, hcurrent ▸ hleaves, hnext ▸ htarget⟩

/-- A machine without a timer is not led anywhere. -/
lemma Maintains.absurd {P : Prop} (h : m.Maintains timer) (hnone : m.stateTimer = none) : P := by
  have hrecorded := h.recorded
  rw [hnone] at hrecorded
  cases hrecorded

lemma napTimer_maintenance {interval remaining delay : Nat}
    (h : napTimer policy interval remaining = some (delay, .maintenance)) :
    interval ≠ 0 ∧ interval * 1000 = delay := by
  unfold napTimer at h
  split at h
  · rename_i hinterval
    simp only [Bool.and_eq_true, decide_eq_true_eq] at hinterval
    exact ⟨hinterval.1, congrArg Prod.fst (Option.some.inj h)⟩
  · split at h
    · cases congrArg Prod.snd (Option.some.inj h)
    · cases h

/-- It takes some time until the next maintenance. -/
lemma wrap64_pos_of_plan (hspaced : policy.Spaced) {now : Int} {next : State} {delay : Nat}
    (hnext : next ≠ .maintenance)
    (h : (m.planEntry policy now next).timer = some (delay, .maintenance)) : 0 < wrap64 delay := by
  cases next with
  | working => cases h
  | dark =>
    obtain ⟨target, hdark, heq⟩ := Option.map_eq_some_iff.1 h
    cases heq
    unfold darkTarget at hdark
    split at hdark
    · cases hdark
    · split at hdark <;> cases hdark
  | maintenance => exact absurd rfl hnext
  | nap =>
    obtain ⟨hinterval, rfl⟩ := napTimer_maintenance
      (show napTimer policy (if m.current = .nap then Backoff.again _ policy.napIntervals
        else Backoff.next _ policy.napIntervals).1 _ = some (delay, .maintenance) from h)
    refine hspaced.intervals _ (List.mem_append_left _ (Backoff.stretch_mem ?_ _ _))
    intro hnone
    rw [hnone, Backoff.stretch_nil] at hinterval
    exact hinterval rfl
  | sleep =>
    rw [planEntry, planSleep_timer] at h
    split at h
    · cases h
    · rename_i hinterval
      obtain rfl : _ = delay := congrArg Prod.fst (Option.some.inj h)
      refine hspaced.intervals _ (List.mem_append_right _ (Backoff.stretch_mem ?_ _ _))
      intro hnone
      rw [sleepInterval, hnone, Backoff.stretch_nil] at hinterval
      exact hinterval rfl

end Machine

namespace Rig

variable {σ : Type} {policy : Policy} {rig after before : Rig σ} {timer : ArmedTimer}

/-- The timer of a state that was entered has a new number, and is not due yet if it leads to
maintenance. -/
lemma Entered.maintains {next : State} (h : Entered policy next before after)
    (hspaced : policy.Spaced) (hsound : after.machine.Sound)
    (hmaintains : after.machine.Maintains timer) :
    before.host.timers.nextId ≤ timer.id ∧ (before.host.timers.Counted →
      timer ∈ after.host.timers.pending → before.host.now < timer.due) := by
  refine ⟨h.fresh _ hmaintains.recorded, fun hcounted hmem => ?_⟩
  obtain ⟨delay, target, hplan, hdue⟩ := h.due hcounted timer hmem hmaintains.recorded
  have htarget : target = .maintenance := by
    have hnext := h.nextState.symm.trans hmaintains.target
    rw [hplan] at hnext
    exact Option.some.inj hnext
  subst htarget
  have hnext : next ≠ .maintenance := by
    intro hmaintenance
    have hleads := hsound.leads _ hmaintains.target
    simp [Machine.Leads, h.current, hmaintenance] at hleads
  have hdelay := Machine.wrap64_pos_of_plan hspaced hnext hplan
  omega

lemma maintains_enterOrBlock {next : State} (htimers : before.host.timers = rig.host.timers)
    (hspaced : policy.Spaced) (hsound : (before.enterOrBlock policy next).machine.Sound)
    (hmaintains : (before.enterOrBlock policy next).machine.Maintains timer) :
    rig.host.timers.nextId ≤ timer.id ∧ (rig.host.timers.Counted →
      timer ∈ (before.enterOrBlock policy next).host.timers.pending →
        rig.host.now < timer.due) := by
  rcases enterOrBlock_cases policy next before with ⟨-, -, hrefused⟩ | hentered
  · rw [hrefused] at hmaintains
    exact hmaintains.absurd (by rw [block_machine]; rfl)
  · have hnew := hentered.maintains hspaced hsound hmaintains
    rw [Host.now, htimers] at hnew
    exact hnew

/-- A timer that leads to maintenance after a step led there before, or it is new and not due. -/
theorem Step.maintains {delivery : Delivery} (hstep : Step policy rig delivery after)
    (hspaced : policy.Spaced) (h : rig.machine.Sound) (hmaintains : after.machine.Maintains timer) :
    (rig.machine.Maintains timer ∧
      (timer ∈ after.host.timers.pending → timer ∈ rig.host.timers.pending)) ∨
    (rig.host.timers.nextId ≤ timer.id ∧ (rig.host.timers.Counted →
      timer ∈ after.host.timers.pending → rig.host.now < timer.due)) := by
  have hsound := hstep.sound h
  cases hstep with
  | rest => exact Or.inl ⟨hmaintains, id⟩
  | wake constraint => exact Or.inr (maintains_enterOrBlock rfl hspaced hsound hmaintains)
  | dark idle => exact Or.inr (maintains_enterOrBlock rfl hspaced hsound hmaintains)
  | retry blocked =>
    rcases retry_cases policy rig with ⟨-, hrefused⟩ | hentered
    · rw [hrefused] at hmaintains
      exact hmaintains.absurd rfl
    · exact Or.inr (hentered.maintains hspaced hsound hmaintains)
  | depart constraint ready leads =>
    obtain ⟨-, htimers, -⟩ := ready_frame ready
    exact Or.inr (maintains_enterOrBlock htimers hspaced hsound hmaintains)
  | refuse constraint ready leads asked =>
    obtain ⟨hmachine, -⟩ := ready_frame ready
    exact hmaintains.absurd (by rw [block_machine, hmachine])
  | await constraint ready leads asked unblocked =>
    obtain ⟨hmachine, -⟩ := ready_frame (Or.inr ready)
    exact hmaintains.absurd (by rw [hmachine])
  | phase constraint ahead =>
    have hsettled := settled_enterPhase (rig.machine.phase + 1) (rig.lulled constraint)
    rw [hsettled.machine] at hmaintains
    refine Or.inl ⟨hmaintains.congr rfl rfl rfl, fun hmem => ?_⟩
    rcases hsettled.pending timer hmem with hold | ⟨-, htask⟩
    · rwa [phased, Host.announce_timers] at hold
    · rw [hmaintains.leaves] at htask
      cases htask
  | awaitPhase constraint ahead => exact Or.inl ⟨hmaintains.congr rfl rfl rfl, id⟩
  | endPhases constraint ahead =>
    rw [releaseLock_machine] at hmaintains
    rw [releaseLock_timers]
    exact Or.inl ⟨hmaintains.congr rfl rfl rfl, id⟩

/-- A delivered timer that does not lead to maintenance takes momentum away, or arms nothing. -/
theorem Step.slows (hstep : Step policy rig (some (timer.id, timer.task)) after)
    (h : rig.machine.Sound) (hleads : ¬ rig.machine.Maintains timer) :
    after.machine.momentum < rig.machine.momentum ∨
    (after.machine.momentum ≤ rig.machine.momentum ∧
      ∀ other ∈ after.host.timers.pending, other ∈ rig.host.timers.pending) := by
  generalize hdelivery : some (timer.id, timer.task) = delivery at hstep
  have hstateTimer : delivery = rig.stateDelivery → rig.machine.stateTimer = some timer.id ∧
      timer.task = .transitNextState rig.machine.current := by
    intro heq
    obtain ⟨id, hid, htimer⟩ := Option.map_eq_some_iff.1 (hdelivery.trans heq).symm
    obtain ⟨rfl, htask⟩ := Prod.mk.inj htimer
    exact ⟨hid, htask.symm⟩
  -- In a phase the momentum is what is left of the phases.
  have hphases : delivery = rig.phaseDelivery → rig.machine.InPhases →
      rig.machine.momentum = Machine.finalPhase - rig.machine.phase ∧
        0 < Machine.finalPhase - rig.machine.phase := by
    intro heq ahead
    obtain ⟨id, hid, -⟩ := Option.map_eq_some_iff.1 (hdelivery.trans heq).symm
    refine ⟨?_, Nat.sub_pos_of_lt ahead.ahead⟩
    rw [Machine.momentum, ahead.sleeps, hid]
    rfl
  cases hstep with
  | rest => exact Or.inr ⟨Nat.le_refl _, fun other hmem => hmem⟩
  | wake | dark | retry => cases hdelivery
  | @depart prepared next constraint ready leads expected =>
    obtain ⟨hmachine, htimers, -⟩ := ready_frame ready
    obtain ⟨hid, htask⟩ := hstateTimer rfl
    rcases enterOrBlock_cases policy next prepared with ⟨-, -, hrefused⟩ | hentered
    · rw [hrefused]
      refine Or.inr ⟨Machine.momentum_mono ?_ ?_ ?_, fun other hmem => ?_⟩
      · rw [block_machine, cancelTimers_machine, hmachine]
      · rw [block_machine, cancelTimers_machine, hmachine]
      · rw [block_machine, cancelTimers_machine]
        exact fun hsome => by cases hsome
      · rw [block_timers] at hmem
        rw [← htimers]
        exact (prepared.mem_cancelTimers.1 hmem).1
    · refine Or.inl (leads.momentum_lt ?_ hentered.current)
      rintro rfl
      rcases expected with hnext | hawaited
      · exact hleads ⟨hid, htask, hnext⟩
      · rw [(h.awaitedState _ hawaited).2.2.1] at hid
        cases hid
  | refuse constraint ready leads asked =>
    obtain ⟨hmachine, htimers, -⟩ := ready_frame ready
    rw [block_machine, block_timers, hmachine, htimers]
    exact Or.inr ⟨Machine.momentum_mono rfl rfl id, fun other hmem => hmem⟩
  | await constraint ready leads asked unblocked =>
    obtain ⟨hmachine, htimers, -⟩ := ready_frame (Or.inr ready)
    rw [hmachine, htimers]
    exact Or.inr ⟨Machine.momentum_mono rfl rfl id, fun other hmem => hmem⟩
  | phase constraint ahead =>
    obtain ⟨hmomentum, hpos⟩ := hphases rfl ahead
    have hmachine := (settled_enterPhase (rig.machine.phase + 1) (rig.lulled constraint)).machine
    have hphase := congrArg Machine.phase hmachine
    have hle :=
      Machine.momentum_le_of_sleep ((congrArg Machine.current hmachine).trans ahead.sleeps)
    rw [hphase] at hle
    refine Or.inl ?_
    have hless : Machine.finalPhase - (rig.machine.phase + 1) <
        Machine.finalPhase - rig.machine.phase := by omega
    rw [hmomentum]
    exact Nat.lt_of_le_of_lt hle hless
  | awaitPhase constraint ahead =>
    obtain ⟨hmomentum, hpos⟩ := hphases rfl ahead
    refine Or.inl ?_
    rw [hmomentum, Machine.momentum]
    simpa [lulled, ahead.sleeps] using hpos
  | endPhases constraint ahead =>
    obtain ⟨hmomentum, hpos⟩ := hphases rfl ahead
    refine Or.inl ?_
    rw [hmomentum, releaseLock_machine, Machine.momentum]
    simpa [lulled, ahead.sleeps] using hpos

end Rig

end DeviceStandby
