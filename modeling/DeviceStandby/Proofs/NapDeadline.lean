import DeviceStandby.Proofs.MaintenanceWindows
import DeviceStandby.Proofs.RevokeTimers
import DeviceStandby.Proofs.StateTimers

/-!
# The deadline of nap

The deadline is set when nap is entered from dark, and stays until the machine is back in working
(`MachineRun.napDeadline_stays`).  Each time nap is entered, again or once more, the interval until
maintenance is weighed against the time that is left, so whatever happens in between, nap comes to
its end no later than planned.
-/

namespace DeviceStandby

variable {policy : Policy}

/-! ## The end of nap -/

/-- The clock has not run out of 64 bits, neither when a nap that begins now ends, nor in the time
that is left of one that has begun. -/
structure Rig.InTime {σ : Type} (policy : Policy) (rig : Rig σ) : Prop where
  clock : Width.int64.least ≤ rig.host.now
  timeout : (policy.timeouts.nap : Int) * 1000 ≤ Width.int64.greatest
  fresh : rig.host.now + policy.timeouts.nap * 1000 ≤ Width.int64.greatest
  left : ∀ deadline, rig.machine.napDeadline = some deadline →
    deadline - rig.host.now ≤ Width.int64.greatest

namespace Rig.InTime

variable {σ : Type} {rig : Rig σ}

lemma freshNapDeadline_eq (h : rig.InTime policy) :
    Machine.freshNapDeadline policy rig.host.now = rig.host.now + policy.timeouts.nap * 1000 := by
  obtain ⟨hclock, htimeout, hfresh, -⟩ := h
  unfold Machine.freshNapDeadline Width.clamp
  omega

/-- A machine that goes from dark to nap has the whole nap before it. -/
lemma napUntil_of_dark (h : rig.InTime policy) (hdark : rig.machine.current = .dark) :
    rig.machine.napUntil policy rig.host.now = rig.host.now + policy.timeouts.nap * 1000 := by
  rw [Machine.napUntil, if_pos hdark, Option.getD_none, h.freshNapDeadline_eq]

/-- The time that is left fits a timer. -/
lemma napUntil_sub_le (h : rig.InTime policy) :
    rig.machine.napUntil policy rig.host.now - rig.host.now ≤ Width.int64.greatest := by
  have htimeout := h.timeout
  unfold Machine.napUntil
  split
  · rw [Option.getD_none, h.freshNapDeadline_eq]
    omega
  · cases hdeadline : rig.machine.napDeadline with
    | none =>
      rw [Option.getD_none, h.freshNapDeadline_eq]
      omega
    | some deadline => exact h.left deadline hdeadline

end Rig.InTime

/-! ## The deadline stays -/

/-- Only working leads to dark. -/
lemma Edge.eq_working {before : Option State} {source : State} (h : Edge before source .dark) :
    source = .working := by
  cases h
  rfl

namespace Machine

/-- Once nap has a deadline, only working and dark take it away. -/
lemma napUntil_of_some {m : Machine} {deadline : Int} (hlight : m.current ≠ .dark)
    (hdeadline : m.napDeadline = some deadline) (policy : Policy) (now : Int) :
    m.napUntil policy now = deadline := by
  rw [napUntil, if_neg hlight, hdeadline, Option.getD_some]

/-- The machine is past dark, and nap has that deadline. -/
structure Bounded (deadline : Int) (m : Machine) : Prop where
  sound : m.Sound
  awake : m.current ≠ .working
  light : m.current ≠ .dark
  deadline : m.napDeadline = some deadline

end Machine

namespace MachineRun

variable {σ : Type} {judge : Constraint σ} {run later : MachineRun σ} {deadline : Int}

lemma bounded_after (h : run.rig.machine.Bounded deadline) {move : MachineMove σ}
    (hawake : (run.after judge move).rig.machine.current ≠ .working) :
    (run.after judge move).rig.machine.Bounded deadline := by
  have hsound : (run.after judge move).rig.machine.Sound := Rig.sound_moved h.sound move
  rcases Rig.follows_moved judge run.policy h.sound move with ⟨next, hway, hafter⟩ | hafter
  · have hlight : next ≠ .dark := by
      rintro rfl
      rcases hway with hsame | hedge
      · exact h.light hsame.symm
      · exact h.awake hedge.eq_working
    refine ⟨hsound, hawake, hafter.current ▸ hlight, hafter.napDeadline.trans ?_⟩
    have hnext : next ≠ .working := fun hworking => hawake (hafter.current.trans hworking)
    cases next with
    | working => exact absurd rfl hnext
    | dark => exact absurd rfl hlight
    | nap => exact congrArg some (Machine.napUntil_of_some h.light h.deadline _ _)
    | maintenance | sleep => exact h.deadline
  · exact ⟨hsound, hawake, hafter.current ▸ h.light, hafter.napDeadline.trans h.deadline⟩

/-- The deadline stays until the machine is back in working. -/
theorem Reachable.bounded
    (h : Reachable judge (fun run move => (run.after judge move).rig.machine.current ≠ .working)
      run later) (hbounded : run.rig.machine.Bounded deadline) :
    later.rig.machine.Bounded deadline := by
  induction h with
  | start => exact hbounded
  | move _ allowed ih => exact bounded_after ih allowed

end MachineRun

/-! ## The timer of nap -/

/-- If all intervals last some time, there is none only if the list is empty. -/
lemma Backoff.window_eq_zero_iff {intervals : List Nat}
    (hpositive : ∀ interval ∈ intervals, 0 < interval) (n : Nat) :
    window intervals n = 0 ↔ intervals = [] := by
  by_cases hnone : intervals = []
  · subst hnone
    exact iff_of_true rfl rfl
  · have hpos := hpositive _ (List.mem_of_getElem? (getElem?_window n hnone))
    exact iff_of_false (Nat.ne_of_gt hpos) hnone

lemma Machine.napTimer_of_sleepSwitch (hswitch : policy.sleepSwitch = true)
    (interval remaining : Nat) : napTimer policy interval remaining =
      if 0 < interval ∧ interval * 1000 < remaining then some (interval * 1000, .maintenance)
      else some (remaining, .sleep) := by
  simp [napTimer, hswitch, Nat.pos_iff_ne_zero]

/-- Whichever comes first is next: maintenance after the interval, or sleep at the deadline. -/
lemma Rig.Armed.of_napTimer {σ : Type} {rig : Rig σ} {now deadline : Int} {interval : Nat}
    (hswitch : policy.sleepSwitch = true) (hleft : deadline - now ≤ Width.int64.greatest)
    (h : rig.Armed now (Machine.napTimer policy interval (deadline - now).toNat)) :
    (∃ timer ∈ rig.host.timers.pending, rig.machine.stateTimer = some timer.id ∧
      timer.task = .transitNextState rig.machine.current ∧
      (rig.machine.nextState = some .maintenance ∧ timer.due = now + interval * 1000 ∧
          0 < interval ∧ now + interval * 1000 < deadline ∨
        rig.machine.nextState = some .sleep ∧ timer.due = now + max 0 (deadline - now))) ∧
    (rig.machine.nextState = some .sleep ↔ interval = 0 ∨ deadline ≤ now + interval * 1000) := by
  have hgreatest : (0 : Int) ≤ Width.int64.greatest := by decide
  rw [Machine.napTimer_of_sleepSwitch hswitch] at h
  split at h
  · rename_i hfirst
    obtain ⟨hnext, timer, hmem, hid, htask, hdue⟩ := h
    rw [wrap64_of_le (by omega) (by omega)] at hdue
    refine ⟨⟨timer, hmem, hid, htask, Or.inl ⟨hnext, by omega, hfirst.1, by omega⟩⟩, ?_⟩
    rw [hnext]
    exact iff_of_false (by simp) (by omega)
  · rename_i hlast
    obtain ⟨hnext, timer, hmem, hid, htask, hdue⟩ := h
    rw [wrap64_of_le (by omega) (by omega)] at hdue
    exact ⟨⟨timer, hmem, hid, htask, Or.inr ⟨hnext, by omega⟩⟩, iff_of_true hnext (by omega)⟩

/-- Under a policy that lets the device sleep and is not replaced, let a move be made in time.

If it leads from dark to nap, the deadline is set to the end of a whole nap, and stays the same
until the machine is back in working, whatever happens until then: maintenance, vetoes, timers that
could not be armed, further tries, and even another policy.

If it leads the machine to nap, from another state or out of a block, a timer is armed, and it leads
either to maintenance after the interval, which then is not zero and ends before the deadline, or to
sleep at the deadline, and at once if that has passed; sleep comes next exactly if the interval is
zero or does not end before the deadline.  The interval is the one for the number of returns from
maintenance.  If no interval on the list is zero, as in a policy that was read from a file
(`Policy.paced_ofFile`), it is zero only if the list is empty. -/
theorem nap_deadline_bounds_nap {σ : Type} {judge : Constraint σ} {rig : Rig σ}
    {run : MachineRun σ} (hswitch : policy.sleepSwitch = true)
    (hordered : rig.host.timers.Ordered)
    (h : MachineRun.Reachable judge (fun _ move => move.LeavesPolicy) (.start rig policy) run)
    (htime : run.rig.InTime policy) (move : MachineMove σ) :
    (run.rig.machine.current = .dark → (run.after judge move).rig.machine.current = .nap →
      ∀ later, MachineRun.Reachable judge
        (fun run move => (run.after judge move).rig.machine.current ≠ .working)
        (run.after judge move) later →
      later.rig.machine.napDeadline =
        some (run.rig.host.now + policy.timeouts.nap * 1000)) ∧
    (run.rig.Arrives .nap (run.after judge move).rig → ∃ deadline interval,
      (run.after judge move).rig.machine.napDeadline = some deadline ∧
      interval = Backoff.window policy.napIntervals
        (MachineRun.returns .nap (run.after judge move).changes) ∧
      (∃ timer ∈ (run.after judge move).rig.host.timers.pending,
        (run.after judge move).rig.machine.stateTimer = some timer.id ∧
        timer.task = .transitNextState .nap ∧
        ((run.after judge move).rig.machine.nextState = some .maintenance ∧
            timer.due = run.rig.host.now + interval * 1000 ∧
            0 < interval ∧ run.rig.host.now + interval * 1000 < deadline ∨
          (run.after judge move).rig.machine.nextState = some .sleep ∧
            timer.due = run.rig.host.now + max 0 (deadline - run.rig.host.now))) ∧
      ((run.after judge move).rig.machine.nextState = some .sleep ↔
        interval = 0 ∨ deadline ≤ run.rig.host.now + interval * 1000) ∧
      (policy.Paced → (interval = 0 ↔ policy.napIntervals = []))) := by
  refine ⟨fun hdark hnap later hlater => ?_, fun harrives => ?_⟩
  · have harrives : run.rig.Arrives .nap (run.after judge move).rig := by
      refine ⟨hnap, fun hsame => ?_⟩
      rw [hdark] at hsame
      cases hsame
    obtain ⟨hdeadline, -, -⟩ := h.arrives_nap hordered harrives
    rw [htime.napUntil_of_dark hdark] at hdeadline
    refine (hlater.bounded ⟨Rig.sound_moved h.sound move, ?_, ?_, hdeadline⟩).deadline
    all_goals
      rw [hnap]
      decide
  · obtain ⟨hdeadline, -, harmed⟩ := h.arrives_nap hordered harrives
    obtain ⟨htimer, hsleep⟩ := harmed.of_napTimer hswitch htime.napUntil_sub_le
    rw [harrives.1] at htimer
    exact ⟨_, _, hdeadline, rfl, htimer, hsleep,
      fun hpaced => Backoff.window_eq_zero_iff hpaced.nap _⟩

/-- The screen is off, and the time for nap has come. -/
def MachineRun.drowsy : MachineRun Probe :=
  (start ⟨{}, {}, { script := some .pass }⟩ (Policy.default {})).afterAll Probe.constraint
    [.handle (.event Action.screenOff), .host (.advance 300000)]

/-- From the nap that began then, the device has gone to maintenance, was vetoed the way back, and
has tried again. -/
def MachineRun.interrupted : MachineRun Probe :=
  (drowsy.after Probe.constraint (.deliver 1 (.transitNextState .dark))).afterAll Probe.constraint
    [.host (.advance 900000), .deliver 2 (.transitNextState .nap),
      .think { script := some (.veto "busy") }, .host (.advance 30000),
      .deliver 3 (.transitNextState .maintenance), .handle (.deviceStateChanged 0 false),
      .think { script := some .pass }, .host (.advance 30000)]

/-- Half an hour after it began, the nap will give way to sleep: the deadline has not moved, and
the second interval does not end before it. -/
theorem nap_deadline_bounds_interrupted_nap :
    MachineRun.interrupted.rig.machine.current = .maintenance ∧
    MachineRun.interrupted.rig.machine.napDeadline = some 2100000 ∧
    ∃ timer ∈ (MachineRun.interrupted.after Probe.constraint
        (.deliver 4 (.transitNextState .maintenance))).rig.host.timers.pending,
      timer.task = .transitNextState .nap ∧ timer.due = 2100000 ∧
      (MachineRun.interrupted.after Probe.constraint
        (.deliver 4 (.transitNextState .maintenance))).rig.machine.nextState = some .sleep := by
  have hdrowsy : MachineRun.Reachable Probe.constraint (fun _ move => move.LeavesPolicy)
      (.start ⟨{}, {}, { script := some .pass }⟩ (Policy.default {})) MachineRun.drowsy :=
    .afterAll .start (by simp [MachineMove.LeavesPolicy])
  have hinterrupted : MachineRun.Reachable Probe.constraint (fun _ move => move.LeavesPolicy)
      (.start ⟨{}, {}, { script := some .pass }⟩ (Policy.default {})) MachineRun.interrupted :=
    .afterAll (hdrowsy.move trivial) (by simp [MachineMove.LeavesPolicy])
  have hdeadline : MachineRun.interrupted.rig.machine.napDeadline = some 2100000 := by
    obtain ⟨hstays, -⟩ := nap_deadline_bounds_nap (by decide +kernel) .new hdrowsy
      ⟨by decide +kernel, by decide +kernel, by decide +kernel, fun deadline hsome => by
        rw [show MachineRun.drowsy.rig.machine.napDeadline = none by decide +kernel] at hsome
        cases hsome⟩
      (.deliver 1 (.transitNextState .dark))
    refine hstays (by decide +kernel) (by decide +kernel) _ ?_
    refine .move (.move (.move (.move (.move (.move (.move (.move .start ?_) ?_) ?_) ?_) ?_) ?_)
      ?_) ?_
    all_goals decide +kernel
  obtain ⟨-, hsleep⟩ := nap_deadline_bounds_nap (by decide +kernel) .new hinterrupted
    ⟨by decide +kernel, by decide +kernel, by decide +kernel, fun deadline hsome => by
      cases hdeadline.symm.trans hsome
      decide +kernel⟩
    (.deliver 4 (.transitNextState .maintenance))
  obtain ⟨deadline, interval, hstays, hinterval, ⟨timer, hmem, -, htask, hnext⟩, hsleep, -⟩ :=
    hsleep ⟨by decide +kernel, by decide +kernel⟩
  obtain rfl : interval = 1800 := hinterval.trans (by decide +kernel)
  obtain rfl : deadline = 2100000 := Option.some.inj (hstays.symm.trans (by decide +kernel))
  have hlast := hsleep.2 (Or.inr (by decide +kernel))
  refine ⟨by decide +kernel, hdeadline, timer, hmem, htask, ?_, hlast⟩
  rcases hnext with ⟨hmaintenance, -⟩ | ⟨-, hdue⟩
  · rw [hlast] at hmaintenance
    cases hmaintenance
  · exact hdue.trans (by decide +kernel)

end DeviceStandby
