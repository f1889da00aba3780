import DeviceStandby.Proofs.Arrivals
import DeviceStandby.Proofs.BackoffCalls

/-!
# The windows until maintenance

How long nap and sleep last before maintenance is read off a list of intervals: the first one when
the state is entered anew, one place further with each return from maintenance, and the last one
from then on (`Backoff.window`).  The back-off that the machine remembers says no more than how
often it has returned (`MachineRun.Windowed`); what was tried in vain in between, and what a blocked
machine tries again, leaves no trace in it.
-/

namespace DeviceStandby

namespace Machine

variable {policy : Policy} {m : Machine}

/-! ## What is consulted -/

/-- The interval that is consulted for nap, and the back-off from then on. -/
def napStretch (m : Machine) (policy : Policy) : Nat × Backoff :=
  let begun := if m.current = .dark then none else m.napDeadline
  let backoff := if begun.isSome then m.napBackoff else {}
  if m.current = .nap then backoff.again policy.napIntervals else backoff.next policy.napIntervals

/-- The deadline of nap, if it is entered at `now`. -/
def napUntil (m : Machine) (policy : Policy) (now : Int) : Int :=
  (if m.current = .dark then none else m.napDeadline).getD (freshNapDeadline policy now)

lemma planNap_eq (m : Machine) (policy : Policy) (now : Int) : m.planNap policy now =
    { m.idlePlan with
      timer := napTimer policy (m.napStretch policy).1 (m.napUntil policy now - now).toNat
      napDeadline := some (m.napUntil policy now)
      napBackoff := (m.napStretch policy).2 } := rfl

/-- The interval that is consulted for sleep, and the back-off from then on. -/
def sleepStretch (m : Machine) (policy : Policy) : Nat × Backoff :=
  let backoff := if m.current = .dark || m.current = .nap then {} else m.sleepBackoff
  if m.current = .sleep then backoff.again policy.sleepIntervals
  else backoff.next policy.sleepIntervals

/-- The timer of sleep, given the seconds until maintenance; an interval of zero stands for none. -/
def sleepTimer (interval : Nat) : Option (Nat × State) :=
  if interval = 0 then none else some (interval * 1000, .maintenance)

lemma planSleep_eq (m : Machine) (policy : Policy) : m.planSleep policy =
    { m.idlePlan with
      timer := sleepTimer (m.sleepStretch policy).1
      sleepBackoff := (m.sleepStretch policy).2 } := rfl

end Machine

namespace MachineRun

/-! ## Returns from maintenance -/

/-- How often the state was entered from maintenance since it was last entered from elsewhere. -/
def returns (state : State) (changes : List (State × State)) : Nat :=
  changes.foldl (fun count change =>
    if change.2 = state then (if change.1 = .maintenance then count + 1 else 0) else count) 0

/-- The state was entered from elsewhere than maintenance, and since then as often as that from
maintenance, and only from there. -/
def Returned (state : State) (changes : List (State × State)) (count : Nat) : Prop :=
  ∃ earlier source since, changes = earlier ++ (source, state) :: since ∧ source ≠ .maintenance ∧
    (∀ change ∈ since, change.2 = state → change.1 = .maintenance) ∧
    since.count (.maintenance, state) = count

lemma returns_append (state source target : State) (changes : List (State × State)) :
    returns state (changes ++ [(source, target)]) =
      if target = state then (if source = .maintenance then returns state changes + 1 else 0)
      else returns state changes := by
  simp [returns]

lemma returns_change (state source target : State) (changes : List (State × State)) :
    returns state (changes ++ change source target) =
      if target = state ∧ source ≠ state then
        (if source = .maintenance then returns state changes + 1 else 0)
      else returns state changes := by
  unfold change
  by_cases hsame : source = target
  · subst hsame
    simp
  · rw [if_neg hsame, returns_append]
    by_cases htarget : target = state
    · subst htarget
      simp [hsame]
    · simp [htarget]

lemma Returned.eq_returns {state : State} {changes : List (State × State)} {count : Nat}
    (h : Returned state changes count) : returns state changes = count := by
  obtain ⟨earlier, source, since, rfl, hsource, hsince, rfl⟩ := h
  induction since using List.reverseRecOn with
  | nil =>
    rw [returns_append]
    simp [hsource]
  | append_singleton since last ih =>
    obtain ⟨source', target⟩ := last
    have hlast := hsince (source', target) (by simp)
    rw [← List.cons_append, ← List.append_assoc, returns_append,
      ih (fun change hmem => hsince change (by simp [hmem])), List.count_append]
    by_cases htarget : target = state
    · obtain rfl : source' = .maintenance := hlast htarget
      subst htarget
      simp
    · simp [htarget]

end MachineRun

/-! ## What the back-offs have come to -/

open MachineRun (returns change)

namespace Machine

/-- In nap, and in maintenance that goes back to nap, the back-off of nap has walked on with each
return from maintenance, and nap has a deadline; and likewise for sleep.  In working both back-offs
are new. -/
structure Windowed (policy : Policy) (changes : List (State × State)) (m : Machine) : Prop where
  working : m.current = .working → m.napBackoff = {} ∧ m.sleepBackoff = {}
  nap : m.nextOrigin = .nap → m.napDeadline.isSome = true ∧
    m.napBackoff = .walked policy.napIntervals (returns .nap changes)
  sleep : m.nextOrigin = .sleep →
    m.sleepBackoff = .walked policy.sleepIntervals (returns .sleep changes)

/-- Maintenance would go back to the state that was entered, unless that is maintenance itself. -/
lemma nextOrigin_of_follows {m after : Machine} {policy : Policy} {now : Int} {next : State}
    (h : after.Follows (m.planEntry policy now next) next) :
    after.nextOrigin = if next = .maintenance then m.nextOrigin else next := by
  rw [nextOrigin, h.current, h.origin, planEntry_origin]
  split <;> rfl

namespace Windowed

variable {policy : Policy} {changes : List (State × State)} {m after : Machine}

/-- When nap is entered, the interval of its place is consulted, and the back-off is there. -/
lemma napStretch_eq (h : m.Windowed policy changes)
    (hway : .nap = m.current ∨ Edge (some m.maintenanceOrigin) m.current .nap) :
    m.napStretch policy =
      (Backoff.window policy.napIntervals (returns .nap (changes ++ change m.current .nap)),
        .walked policy.napIntervals (returns .nap (changes ++ change m.current .nap))) := by
  rw [MachineRun.returns_change]
  unfold napStretch
  generalize hcurrent : m.current = current at hway
  rcases hway with hsame | hedge
  · -- It was nap already, and the same interval is consulted again.
    subst hsame
    obtain ⟨hdeadline, hbackoff⟩ := h.nap (by simp [nextOrigin, hcurrent])
    simp [hdeadline, hbackoff, Backoff.again_walked]
  · generalize horigin : some m.maintenanceOrigin = origin at hedge
    cases hedge with
    | darkToNap => simp [Backoff.next_new]
    | backToNap =>
      obtain ⟨hdeadline, hbackoff⟩ :=
        h.nap (by simpa [nextOrigin, hcurrent] using Option.some.inj horigin)
      simp [hdeadline, hbackoff, Backoff.next_walked]

/-- When sleep is entered, the interval of its place is consulted, and the back-off is there. -/
lemma sleepStretch_eq (h : m.Windowed policy changes)
    (hway : .sleep = m.current ∨ Edge (some m.maintenanceOrigin) m.current .sleep) :
    m.sleepStretch policy =
      (Backoff.window policy.sleepIntervals (returns .sleep (changes ++ change m.current .sleep)),
        .walked policy.sleepIntervals (returns .sleep (changes ++ change m.current .sleep))) := by
  rw [MachineRun.returns_change]
  unfold sleepStretch
  generalize hcurrent : m.current = current at hway
  rcases hway with hsame | hedge
  · subst hsame
    simp [h.sleep (by simp [nextOrigin, hcurrent]), Backoff.again_walked]
  · generalize horigin : some m.maintenanceOrigin = origin at hedge
    cases hedge with
    | darkToSleep | napToSleep => simp [Backoff.next_new]
    | backToSleep =>
      have hbackoff := h.sleep (by simpa [nextOrigin, hcurrent] using Option.some.inj horigin)
      simp [hbackoff, Backoff.next_walked]

/-- Entering a state keeps the back-offs at their places. -/
lemma enters (h : m.Windowed policy changes) {now : Int} {next : State}
    (hway : next = m.current ∨ Edge (some m.maintenanceOrigin) m.current next)
    (hafter : after.Follows (m.planEntry policy now next) next) :
    after.Windowed policy (changes ++ change m.current next) := by
  have hback := nextOrigin_of_follows hafter
  obtain ⟨hcurrent, -, hdeadline, hnap, hsleep⟩ := hafter
  refine ⟨fun hworking => ?_, fun hnapping => ?_, fun hsleeping => ?_⟩
  · obtain rfl : next = .working := hcurrent.symm.trans hworking
    exact ⟨hnap, hsleep⟩
  all_goals rw [MachineRun.returns_change]
  · rw [hback] at hnapping
    split at hnapping
    · -- Maintenance does not touch the back-off of nap.
      rename_i hnext
      subst hnext
      rw [hdeadline, hnap]
      exact h.nap hnapping
    · subst hnapping
      rw [planEntry, planNap_eq, h.napStretch_eq hway, MachineRun.returns_change] at hnap
      exact ⟨congrArg Option.isSome hdeadline, hnap⟩
  · rw [hback] at hsleeping
    split at hsleeping
    · rename_i hnext
      subst hnext
      rw [hsleep]
      exact h.sleep hsleeping
    · subst hsleeping
      rw [planEntry, planSleep_eq, h.sleepStretch_eq hway, MachineRun.returns_change] at hsleep
      exact hsleep

/-- Entering the same state once more does not move the back-offs. -/
lemma repeats (h : m.Windowed policy changes) {now : Int}
    (hafter : after.Follows (m.planEntry policy now m.current) m.current) :
    after.napBackoff = m.napBackoff ∧ after.sleepBackoff = m.sleepBackoff := by
  obtain ⟨-, -, -, hnap, hsleep⟩ := hafter
  rw [hnap, hsleep]
  cases hcurrent : m.current with
  | working =>
    obtain ⟨hnew, hnew'⟩ := h.working hcurrent
    exact ⟨hnew.symm, hnew'.symm⟩
  | dark | maintenance => exact ⟨rfl, rfl⟩
  | nap =>
    obtain ⟨-, hbackoff⟩ := h.nap (by simp [nextOrigin, hcurrent])
    rw [planEntry, planNap_eq, h.napStretch_eq (Or.inl hcurrent.symm), hcurrent, change,
      if_pos rfl, List.append_nil, hbackoff]
    exact ⟨rfl, rfl⟩
  | sleep =>
    have hbackoff := h.sleep (by simp [nextOrigin, hcurrent])
    rw [planEntry, planSleep_eq, h.sleepStretch_eq (Or.inl hcurrent.symm), hcurrent, change,
      if_pos rfl, List.append_nil, hbackoff]
    exact ⟨rfl, rfl⟩

/-- A machine that stands still keeps the back-offs at their places. -/
lemma stands (h : m.Windowed policy changes) (hafter : after.Follows m.idlePlan m.current) :
    after.Windowed policy changes := by
  obtain ⟨hcurrent, horigin, hdeadline, hnap, hsleep⟩ := hafter
  have hback : after.nextOrigin = m.nextOrigin := by
    rw [nextOrigin, nextOrigin, hcurrent, horigin]
    rfl
  refine ⟨fun hworking => ?_, fun hnapping => ?_, fun hsleeping => ?_⟩
  · rw [hnap, hsleep]
    exact h.working (hcurrent.symm.trans hworking)
  · rw [hdeadline, hnap]
    exact h.nap (hback.symm.trans hnapping)
  · rw [hsleep]
    exact h.sleep (hback.symm.trans hsleeping)

end Windowed

end Machine

/-! ## Runs -/

namespace MachineRun

variable {σ : Type} {judge : Constraint σ} {rig : Rig σ} {policy : Policy} {run : MachineRun σ}

lemma after_changes (run : MachineRun σ) (move : MachineMove σ) :
    (run.after judge move).changes = run.changes ++
      change run.rig.machine.current (run.after judge move).rig.machine.current := rfl

/-- The back-offs are at their places wherever a run gets. -/
theorem Reachable.windowed
    (h : Reachable judge (fun _ move => move.LeavesPolicy) (.start rig policy) run) :
    run.rig.machine.Windowed policy run.changes := by
  induction h with
  | start =>
    refine ⟨fun _ => ⟨rfl, rfl⟩, fun hback => ?_, fun hback => ?_⟩
    all_goals cases hback
  | @move run move reached allowed ih =>
    obtain rfl : run.policy = policy := reached.policy_eq (fun _ _ h => h)
    rw [after_changes]
    rcases Rig.follows_moved judge run.policy reached.sound move with
      ⟨next, hway, hafter⟩ | hafter
    · have hentered := ih.enters hway hafter
      rwa [← hafter.current] at hentered
    · have hcurrent : (run.after judge move).rig.machine.current = run.rig.machine.current :=
        hafter.current
      rw [hcurrent, change, if_pos rfl, List.append_nil]
      exact ih.stands hafter

/-- When the machine has arrived in nap, it remembers the deadline and the place of the interval for
as many returns from maintenance as there were, and its timer is armed by these. -/
lemma Reachable.arrives_nap (hordered : rig.host.timers.Ordered)
    (h : Reachable judge (fun _ move => move.LeavesPolicy) (.start rig policy) run)
    {move : MachineMove σ} (harrives : run.rig.Arrives .nap (run.after judge move).rig) :
    (run.after judge move).rig.machine.napDeadline =
      some (run.rig.machine.napUntil policy run.rig.host.now) ∧
    (run.after judge move).rig.machine.napBackoff =
      .walked policy.napIntervals (returns .nap (run.after judge move).changes) ∧
    (run.after judge move).rig.Armed run.rig.host.now (Machine.napTimer policy
      (Backoff.window policy.napIntervals (returns .nap (run.after judge move).changes))
      (run.rig.machine.napUntil policy run.rig.host.now - run.rig.host.now).toNat) := by
  obtain rfl : run.policy = policy := h.policy_eq (fun _ _ h => h)
  obtain ⟨hway, hfollows⟩ := Rig.follows_of_arrives h.sound harrives (by decide)
  have harmed := Rig.armed_of_arrives h.sound (h.ordered hordered).counted harrives (by decide)
  rw [Rig.plan, Machine.planEntry, Machine.planNap_eq,
    h.windowed.napStretch_eq hway] at harmed hfollows
  rw [after_changes, harrives.1]
  exact ⟨hfollows.napDeadline, hfollows.napBackoff, harmed⟩

/-- When the machine has arrived in sleep, it remembers the place of the interval for as many
returns from maintenance as there were, and its timer is armed by this. -/
lemma Reachable.arrives_sleep (hordered : rig.host.timers.Ordered)
    (h : Reachable judge (fun _ move => move.LeavesPolicy) (.start rig policy) run)
    {move : MachineMove σ} (harrives : run.rig.Arrives .sleep (run.after judge move).rig) :
    (run.after judge move).rig.machine.sleepBackoff =
      .walked policy.sleepIntervals (returns .sleep (run.after judge move).changes) ∧
    (run.after judge move).rig.Armed run.rig.host.now (Machine.sleepTimer
      (Backoff.window policy.sleepIntervals
        (returns .sleep (run.after judge move).changes))) := by
  obtain rfl : run.policy = policy := h.policy_eq (fun _ _ h => h)
  obtain ⟨hway, hfollows⟩ := Rig.follows_of_arrives h.sound harrives (by decide)
  have harmed := Rig.armed_of_arrives h.sound (h.ordered hordered).counted harrives (by decide)
  rw [Rig.plan, Machine.planEntry, Machine.planSleep_eq,
    h.windowed.sleepStretch_eq hway] at harmed hfollows
  rw [after_changes, harrives.1]
  exact ⟨hfollows.sleepBackoff, harmed⟩

end MachineRun

/-- Under a policy that is not replaced, whatever happens otherwise, let a move lead the machine to
sleep, from another state or out of a block.  If it has entered sleep from elsewhere than
maintenance and since then `count` times from maintenance, its timer is armed by the interval at
this place of the list, or by the last one if the list is shorter, and with an interval of zero none
is armed; the back-off remembers the place.

In the same way the interval of nap is the one at the place for the returns to nap; whether it or
the deadline comes first is then a matter of `Machine.napTimer`.

A move that leaves the machine in its state uses up no interval, whether it was a transition that
has failed, another try of a blocked machine, or anything else. -/
theorem maintenance_windows_follow_backoff {σ : Type} {judge : Constraint σ} {rig : Rig σ}
    {policy : Policy} {run : MachineRun σ} (hordered : rig.host.timers.Ordered)
    (h : MachineRun.Reachable judge (fun _ move => move.LeavesPolicy) (.start rig policy) run)
    (move : MachineMove σ) :
    (policy.sleepIntervals ≠ [] → run.rig.Arrives .sleep (run.after judge move).rig →
      ∀ count, MachineRun.Returned .sleep (run.after judge move).changes count →
      ∃ interval,
        policy.sleepIntervals[min count (policy.sleepIntervals.length - 1)]? = some interval ∧
        (run.after judge move).rig.Armed run.rig.host.now
          (if interval = 0 then none else some (interval * 1000, .maintenance)) ∧
        (run.after judge move).rig.machine.sleepBackoff =
          ⟨min count (policy.sleepIntervals.length - 1), true⟩) ∧
    (policy.napIntervals ≠ [] → run.rig.Arrives .nap (run.after judge move).rig →
      ∀ count, MachineRun.Returned .nap (run.after judge move).changes count →
      ∃ interval deadline,
        policy.napIntervals[min count (policy.napIntervals.length - 1)]? = some interval ∧
        (run.after judge move).rig.machine.napDeadline = some deadline ∧
        (run.after judge move).rig.Armed run.rig.host.now
          (Machine.napTimer policy interval (deadline - run.rig.host.now).toNat) ∧
        (run.after judge move).rig.machine.napBackoff =
          ⟨min count (policy.napIntervals.length - 1), true⟩) ∧
    ((run.after judge move).rig.machine.current = run.rig.machine.current →
      (run.after judge move).rig.machine.napBackoff = run.rig.machine.napBackoff ∧
      (run.after judge move).rig.machine.sleepBackoff = run.rig.machine.sleepBackoff) := by
  refine ⟨fun hsome harrives count hcount => ?_, fun hsome harrives count hcount => ?_,
    fun hcurrent => ?_⟩
  · obtain ⟨hplace, harmed⟩ := h.arrives_sleep hordered harrives
    rw [hcount.eq_returns] at hplace harmed
    rw [Backoff.walked_of_ne_nil count hsome] at hplace
    exact ⟨_, Backoff.getElem?_window count hsome, harmed, hplace⟩
  · obtain ⟨hdeadline, hplace, harmed⟩ := h.arrives_nap hordered harrives
    rw [hcount.eq_returns] at hplace harmed
    rw [Backoff.walked_of_ne_nil count hsome] at hplace
    exact ⟨_, _, Backoff.getElem?_window count hsome, hdeadline, harmed, hplace⟩
  · obtain rfl : run.policy = policy := h.policy_eq (fun _ _ h => h)
    rcases Rig.follows_moved judge run.policy h.sound move with
      ⟨next, -, hafter⟩ | hafter
    · obtain rfl : next = run.rig.machine.current := hafter.current.symm.trans hcurrent
      exact h.windowed.repeats hafter
    · exact ⟨hafter.napBackoff, hafter.sleepBackoff⟩

/-- The device is in maintenance for the first time, and the timer that leads back to sleep has
fired.  It was there for two minutes, because the constraint has once vetoed the way back. -/
def MachineRun.heldUp : MachineRun Probe :=
  (start ⟨{}, {}, { script := some .pass }⟩ Policy.napless).afterAll Probe.constraint
    [.handle (.event Action.screenOff), .host (.advance 300000),
      .deliver 1 (.transitNextState .dark), .host (.advance 3600000),
      .deliver 2 (.transitNextState .sleep), .think { script := some (.veto "busy") },
      .host (.advance 60000), .deliver 4 (.transitNextState .maintenance),
      .handle (.deviceStateChanged 0 false), .think { script := some .pass },
      .host (.advance 60000)]

/-- Back in sleep, the device could not be led to maintenance in time, and is blocked. -/
def MachineRun.oversleeping : MachineRun Probe :=
  heldUp.afterAll Probe.constraint
    [.deliver 5 (.transitNextState .maintenance), .host (.fail .arm true), .host (.advance 7200000),
      .deliver 6 (.transitNextState .sleep), .host (.fail .arm false)]

/-- The first return to sleep arms the second interval, two hours, and the next try out of the block
arms the same one again. -/
theorem maintenance_windows_after_failures :
    (MachineRun.heldUp.after Probe.constraint
      (.deliver 5 (.transitNextState .maintenance))).rig.Armed 4020000
        (some (7200000, .maintenance)) ∧
    MachineRun.oversleeping.rig.machine.blocked = true ∧
    (MachineRun.oversleeping.after Probe.constraint
      (.handle (.deviceStateChanged 0 false))).rig.Armed 11220000
        (some (7200000, .maintenance)) := by
  have hheld : MachineRun.Reachable Probe.constraint (fun _ move => move.LeavesPolicy)
      (.start ⟨{}, {}, { script := some .pass }⟩ Policy.napless) MachineRun.heldUp :=
    .afterAll .start (by simp [MachineMove.LeavesPolicy])
  have hover : MachineRun.Reachable Probe.constraint (fun _ move => move.LeavesPolicy)
      (.start ⟨{}, {}, { script := some .pass }⟩ Policy.napless) MachineRun.oversleeping :=
    .afterAll hheld (by simp [MachineMove.LeavesPolicy])
  have hreturned : MachineRun.Returned .sleep
      [(.working, .dark), (.dark, .sleep), (.sleep, .maintenance), (.maintenance, .sleep)] 1 :=
    ⟨[(.working, .dark)], .dark, [(.sleep, .maintenance), (.maintenance, .sleep)], by decide⟩
  obtain ⟨hreturn, -, -⟩ := maintenance_windows_follow_backoff .new hheld
    (.deliver 5 (.transitNextState .maintenance))
  obtain ⟨hretry, -, -⟩ := maintenance_windows_follow_backoff .new hover
    (.handle (.deviceStateChanged 0 false))
  refine ⟨?_, by decide +kernel, ?_⟩
  · obtain ⟨interval, hplace, harmed, -⟩ := hreturn (by decide +kernel)
      ⟨by decide +kernel, by decide +kernel⟩ 1 hreturned
    cases hplace
    exact harmed
  · obtain ⟨interval, hplace, harmed, -⟩ := hretry (by decide +kernel)
      ⟨by decide +kernel, by decide +kernel⟩ 1 hreturned
    cases hplace
    exact harmed

end DeviceStandby
