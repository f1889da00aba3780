import DeviceStandby.Machine.Step
import DeviceStandby.Proofs.HostWork

/-!
# What it comes to that a state is entered

Entering a state either is refused, because the timer of the state could not be armed, and then the
machine is left without timers and otherwise as it was; or the machine has entered the state
(`Rig.Entered`): it remembers the timer that its plan asks for and no other, it holds the wake lock
only if it waits for the timer of its next phase, and if the state is a new one, that was told and
put on record.  `Rig.enter_cases` says that there is no third way.

The end of a step that enters a state or a phase is always the same: the wake lock is let go, or the
timer for the next phase is armed (`Rig.Settled`).
-/

namespace DeviceStandby

/-! ## Small steps -/

namespace Rig

variable {σ : Type} (rig : Rig σ)

@[simp] lemma releaseLock_machine :
    rig.releaseLock.machine = { rig.machine with lockHeld := false } := by
  unfold releaseLock
  split
  · rfl
  · rename_i hfree
    rw [Bool.not_eq_true] at hfree
    rw [← hfree]

@[simp] lemma releaseLock_timers : rig.releaseLock.host.timers = rig.host.timers := by
  unfold releaseLock
  split <;> rfl

@[simp] lemma releaseLock_queue : rig.releaseLock.host.queue = rig.host.queue := by
  unfold releaseLock
  split <;> rfl

@[simp] lemma releaseLock_store : rig.releaseLock.host.store = rig.host.store := by
  unfold releaseLock
  split <;> rfl

lemma acquireLock_machine : rig.acquireLock.machine =
    { rig.machine with lockHeld := rig.machine.lockHeld || !rig.host.wakeLock.failAcquire } := by
  unfold acquireLock
  split
  · rename_i hheld
    rw [hheld, Bool.true_or, ← hheld]
  · rename_i hfree
    rw [Bool.not_eq_true] at hfree
    rw [hfree, Bool.false_or]
    rfl

@[simp] lemma acquireLock_timers : rig.acquireLock.host.timers = rig.host.timers := by
  unfold acquireLock
  split <;> rfl

@[simp] lemma acquireLock_queue : rig.acquireLock.host.queue = rig.host.queue := by
  unfold acquireLock
  split <;> rfl

@[simp] lemma acquireLock_store : rig.acquireLock.host.store = rig.host.store := by
  unfold acquireLock
  split <;> rfl

@[simp] lemma cancelTimers_machine : rig.cancelTimers.machine =
    { rig.machine with stateTimer := none, phaseTimer := none } := rfl

@[simp] lemma cancelTimers_queue : rig.cancelTimers.host.queue = rig.host.queue := by
  simp [cancelTimers]

@[simp] lemma cancelTimers_store : rig.cancelTimers.host.store = rig.host.store := by
  simp [cancelTimers]

lemma cancelTimers_nextId :
    rig.cancelTimers.host.timers.nextId = rig.host.timers.nextId := by
  unfold cancelTimers
  cases rig.machine.stateTimer <;> cases rig.machine.phaseTimer <;> rfl

lemma worked_cancelTimers (arms : ArmedTimer → Prop) :
    Host.Worked arms rig.host [] rig.cancelTimers.host :=
  (Host.Worked.cancel? rig.host rig.machine.stateTimer).trans (.cancel? _ rig.machine.phaseTimer)

lemma cancelTimers_now : rig.cancelTimers.host.now = rig.host.now :=
  (worked_cancelTimers rig (fun _ => False)).now

/-- The timers that are left are those which the machine did not remember. -/
lemma mem_cancelTimers {timer : ArmedTimer} :
    timer ∈ rig.cancelTimers.host.timers.pending ↔ timer ∈ rig.host.timers.pending ∧
      rig.machine.stateTimer ≠ some timer.id ∧ rig.machine.phaseTimer ≠ some timer.id := by
  show timer ∈ (Host.cancel? _ _).timers.pending ↔ _
  rw [Host.mem_cancel?_pending, Host.mem_cancel?_pending, and_assoc]

@[simp] lemma block_machine : rig.block.machine =
    { rig.machine with blocked := true, awaited := none, lockHeld := false } := by
  simp [block]

@[simp] lemma block_timers : rig.block.host.timers = rig.host.timers := by simp [block]

@[simp] lemma block_queue : rig.block.host.queue = rig.host.queue := by simp [block]

@[simp] lemma block_store : rig.block.host.store = rig.host.store := by simp [block]

/-! ## How a step ends -/

/-- The wake lock was let go, or else the timer for the next phase was armed. -/
structure Settled (rig after : Rig σ) : Prop where
  machine : after.machine = { rig.machine with
    phaseTimer := after.machine.phaseTimer
    lockHeld := after.machine.lockHeld }
  lock : after.machine.lockHeld = true → after.machine.phaseTimer.isSome = true
  kept : ∀ timer ∈ rig.host.timers.pending, timer ∈ after.host.timers.pending
  pending : ∀ timer ∈ after.host.timers.pending, timer ∈ rig.host.timers.pending ∨
    after.machine.phaseTimer = some timer.id ∧ timer.task = .transitNextPhase rig.machine.current
  queue : after.host.queue = rig.host.queue
  store : after.host.store = rig.host.store
  worked : Host.Worked (fun timer => timer.task = .transitNextPhase rig.machine.current)
    rig.host [] after.host

lemma settled_releaseLock : Settled rig rig.releaseLock := by
  refine ⟨by simp, by simp, ?_, ?_, by simp, by simp, .of_same (by simp) (by simp)⟩
  · intro timer hmem
    simpa using hmem
  · intro timer hmem
    exact Or.inl (by simpa using hmem)

lemma settled_armPhaseTimer : Settled rig rig.armPhaseTimer := by
  unfold armPhaseTimer
  cases hworks : rig.host.timers.failing with
  | true =>
    rw [Host.arm_of_failing _ _ _ hworks]
    exact settled_releaseLock rig
  | false =>
    obtain ⟨hnumber, hpending⟩ :=
      rig.host.arm_of_works 0 (.transitNextPhase rig.machine.current) hworks
    rcases harm : rig.host.arm 0 (.transitNextPhase rig.machine.current) with ⟨number, host⟩
    rw [harm] at hnumber hpending
    obtain rfl : number = some rig.host.timers.nextId := hnumber
    have hhost : host = (rig.host.arm 0 (.transitNextPhase rig.machine.current)).2 := by rw [harm]
    refine ⟨rfl, fun _ => rfl, ?_, ?_, ?_, ?_, ?_⟩
    · intro timer hmem
      exact hpending ▸ List.mem_append_left _ hmem
    · intro timer hmem
      change timer ∈ host.timers.pending at hmem
      rw [hpending, List.mem_append, List.mem_singleton] at hmem
      rcases hmem with hmem | rfl
      · exact Or.inl hmem
      · exact Or.inr ⟨rfl, rfl⟩
    · rw [hhost, Host.arm_queue]
    · rw [hhost, Host.arm_store]
    · rw [hhost]
      exact .arm rig.host rfl

end Rig

/-! ## Plans -/

namespace Machine

/-- Where the timer of a state may lead. -/
def Leads (machine : Machine) (next : State) : Prop :=
  match machine.current with
  | .working => False
  | .dark => next = .nap ∨ next = .sleep
  | .nap => next = .maintenance ∨ next = .sleep
  | .maintenance => next = machine.maintenanceOrigin ∧ (next = .nap ∨ next = .sleep)
  | .sleep => next = .maintenance

lemma napTimer_target {policy : Policy} {interval remaining delay : Nat} {target : State}
    (h : napTimer policy interval remaining = some (delay, target)) :
    target = .maintenance ∨ target = .sleep := by
  unfold napTimer at h
  split at h
  · cases h
    exact Or.inl rfl
  · split at h
    · cases h
      exact Or.inr rfl
    · cases h

/-- The interval that a sleep entered now lasts. -/
def sleepInterval (machine : Machine) (policy : Policy) : Nat :=
  let backoff :=
    if machine.current = .dark || machine.current = .nap then {} else machine.sleepBackoff
  (if machine.current = .sleep then backoff.again policy.sleepIntervals
    else backoff.next policy.sleepIntervals).1

lemma planSleep_timer (machine : Machine) (policy : Policy) : (machine.planSleep policy).timer =
    if machine.sleepInterval policy = 0 then none
    else some (machine.sleepInterval policy * 1000, .maintenance) := rfl

/-- The state that maintenance goes back to, if it is entered now. -/
def nextOrigin (machine : Machine) : State :=
  if machine.current = .maintenance then machine.maintenanceOrigin else machine.current

/-- Maintenance would go back to nap or sleep. -/
def MayMaintain (machine : Machine) : Prop :=
  machine.nextOrigin = .nap ∨ machine.nextOrigin = .sleep

/-- Only a plan for maintenance changes where maintenance goes back to. -/
lemma planEntry_origin (machine : Machine) (policy : Policy) (now : Int) (next : State) :
    (machine.planEntry policy now next).maintenanceOrigin =
      if next = .maintenance then machine.nextOrigin else machine.maintenanceOrigin := by
  cases next with
  | working | dark | nap | sleep => rfl
  | maintenance => rfl

/-- A machine that has entered a state by its plan is led to where the state may lead. -/
lemma leads_of_planEntry {machine after : Machine} {policy : Policy} {now : Int}
    {next target : State} (horigin : next = .maintenance → machine.MayMaintain)
    (hcurrent : after.current = next)
    (hafter : after.maintenanceOrigin = (machine.planEntry policy now next).maintenanceOrigin)
    (htarget : (machine.planEntry policy now next).timer.map (·.2) = some target) :
    after.Leads target := by
  rw [planEntry_origin] at hafter
  obtain ⟨⟨delay, state⟩, htimer, rfl⟩ := Option.map_eq_some_iff.1 htarget
  unfold Leads
  rw [hcurrent]
  cases next with
  | working => cases htimer
  | dark =>
    obtain ⟨state', hdark, heq⟩ := Option.map_eq_some_iff.1 htimer
    cases heq
    unfold darkTarget at hdark
    split at hdark
    · exact Or.inl (Option.some.inj hdark).symm
    · split at hdark
      · exact Or.inr (Option.some.inj hdark).symm
      · cases hdark
  | nap => exact napTimer_target htimer
  | maintenance =>
    cases htimer
    rw [if_pos rfl] at hafter
    exact ⟨hafter.symm, horigin rfl⟩
  | sleep =>
    rw [planEntry, planSleep_timer] at htimer
    split at htimer
    · cases htimer
    · exact (congrArg Prod.snd (Option.some.inj htimer)).symm

end Machine

/-! ## Entered states -/

namespace Rig

variable {σ : Type} {policy : Policy} {next : State} {rig after : Rig σ}

/-- What entering the state would do. -/
def plan (policy : Policy) (next : State) (rig : Rig σ) : EntryPlan :=
  rig.machine.planEntry policy rig.host.now next

/-- The machine has entered the state. -/
structure Entered (policy : Policy) (next : State) (rig after : Rig σ) : Prop where
  machine : after.machine =
    { rig.machine.commit (rig.plan policy next) after.machine.stateTimer next with
      phase := if rig.machine.current = next then rig.machine.phase else 0
      phaseTimer := after.machine.phaseTimer
      lockHeld := after.machine.lockHeld }
  timer : after.machine.stateTimer.isSome = (rig.plan policy next).timer.isSome
  phases : after.machine.phaseTimer.isSome = true → rig.machine.current ≠ next ∧ next = .sleep
  lock : after.machine.lockHeld = true → after.machine.phaseTimer.isSome = true
  armed : ∀ id, after.machine.stateTimer = some id →
    ∃ timer ∈ after.host.timers.pending, timer.id = id ∧ timer.task = .transitNextState next
  pending : ∀ timer ∈ after.host.timers.pending,
    timer ∈ rig.cancelTimers.host.timers.pending ∨
    after.machine.stateTimer = some timer.id ∧ timer.task = .transitNextState next ∨
    after.machine.phaseTimer = some timer.id ∧ timer.task = .transitNextPhase next
  queue : after.host.queue = if rig.machine.current = next then rig.host.queue
    else (rig.host.announce (.stateTransit rig.machine.current next)).queue
  store : after.host.store = if rig.machine.current = next then rig.host.store
    else (rig.host.audit (.stateTransited rig.machine.current next)).store
  worked : Host.Worked
    (fun timer => timer.task = .transitNextState next ∨ timer.task = .transitNextPhase next)
    rig.host (if rig.machine.current = next then []
      else rig.host.heard (.stateTransit rig.machine.current next)) after.host
  fresh : ∀ id, after.machine.stateTimer = some id → rig.host.timers.nextId ≤ id
  due : rig.host.timers.Counted → ∀ timer ∈ after.host.timers.pending,
    after.machine.stateTimer = some timer.id → ∃ delay target,
      (rig.plan policy next).timer = some (delay, target) ∧
        timer.due = rig.host.now + wrap64 delay

namespace Entered

lemma current (h : Entered policy next rig after) : after.machine.current = next :=
  congrArg Machine.current h.machine

lemma unblocked (h : Entered policy next rig after) : after.machine.blocked = false :=
  congrArg Machine.blocked h.machine

lemma awaited (h : Entered policy next rig after) : after.machine.awaited = none :=
  congrArg Machine.awaited h.machine

lemma senses (h : Entered policy next rig after) :
    after.machine.screenOn = rig.machine.screenOn ∧
      after.machine.charging = rig.machine.charging := by
  rw [h.machine]
  exact ⟨rfl, rfl⟩

lemma nextState (h : Entered policy next rig after) :
    after.machine.nextState = (rig.plan policy next).timer.map (·.2) :=
  congrArg Machine.nextState h.machine

lemma napDeadline (h : Entered policy next rig after) :
    after.machine.napDeadline = (rig.plan policy next).napDeadline :=
  congrArg Machine.napDeadline h.machine

lemma phase (h : Entered policy next rig after) :
    after.machine.phase = if rig.machine.current = next then rig.machine.phase else 0 :=
  congrArg Machine.phase h.machine

lemma origin (h : Entered policy next rig after) : after.machine.maintenanceOrigin =
    if next = .maintenance then rig.machine.nextOrigin else rig.machine.maintenanceOrigin :=
  (congrArg Machine.maintenanceOrigin h.machine).trans (Machine.planEntry_origin _ _ _ _)

/-- A state timer and the state that it leads to are remembered together. -/
lemma nextState_isSome (h : Entered policy next rig after) :
    after.machine.nextState.isSome = after.machine.stateTimer.isSome := by
  rw [h.nextState, h.timer, Option.isSome_map]

lemma leads (h : Entered policy next rig after)
    (horigin : next = .maintenance → rig.machine.MayMaintain)
    {target : State} (htarget : after.machine.nextState = some target) :
    after.machine.Leads target :=
  Machine.leads_of_planEntry horigin h.current
    (congrArg Machine.maintenanceOrigin h.machine) (h.nextState.symm.trans htarget)

end Entered

/-! ## Arriving -/

/-- The machine has arrived; if the state is a new one, that is told and put on record. -/
def told (previous : State) (rig : Rig σ) : Rig σ :=
  if previous = rig.machine.current then rig
  else
    { rig with
      host := (rig.host.announce (.stateTransit previous rig.machine.current)).audit
        (.stateTransited previous rig.machine.current)
      machine := { rig.machine with phase := 0 } }

lemma settled_arrive (previous : State) (rig : Rig σ) :
    Settled (told previous rig) (arrive previous rig) := by
  unfold told arrive
  dsimp only
  split
  · exact settled_releaseLock rig
  · split
    · exact settled_armPhaseTimer _
    · exact settled_releaseLock _

/-- Only a sleep that is new has phases ahead. -/
lemma arrive_phaseTimer (previous : State) (rig : Rig σ) (hnone : rig.machine.phaseTimer = none)
    (h : (arrive previous rig).machine.phaseTimer.isSome = true) :
    previous ≠ rig.machine.current ∧ rig.machine.current = .sleep := by
  unfold arrive at h
  dsimp only at h
  split at h
  · simp [hnone] at h
  · split at h
    · rename_i hnew hsleep
      exact ⟨hnew, hsleep⟩
    · simp [hnone] at h

lemma told_machine (previous : State) (rig : Rig σ) : (told previous rig).machine =
    { rig.machine with
      phase := if previous = rig.machine.current then rig.machine.phase else 0 } := by
  unfold told
  split <;> rfl

lemma told_timers (previous : State) (rig : Rig σ) :
    (told previous rig).host.timers = rig.host.timers := by
  unfold told
  split
  · rfl
  · simp

lemma told_queue (previous : State) (rig : Rig σ) : (told previous rig).host.queue =
    if previous = rig.machine.current then rig.host.queue
    else (rig.host.announce (.stateTransit previous rig.machine.current)).queue := by
  unfold told
  split <;> rfl

lemma told_store (previous : State) (rig : Rig σ) : (told previous rig).host.store =
    if previous = rig.machine.current then rig.host.store
    else (rig.host.audit (.stateTransited previous rig.machine.current)).store := by
  unfold told
  split
  · rfl
  · exact Host.audit_store_congr _ _ (by simp) (by simp)

lemma worked_told (arms : ArmedTimer → Prop) (previous : State) (rig : Rig σ) :
    Host.Worked arms rig.host (if previous = rig.machine.current then []
      else rig.host.heard (.stateTransit previous rig.machine.current)) (told previous rig).host := by
  unfold told
  split
  · exact .refl rig.host
  · exact (Host.Worked.announce rig.host _).still (.audit _ _)

/-- The machine with its state timer, before it arrives. -/
def committed (policy : Policy) (next : State) (timer : Option TimerId) (host : Host)
    (rig : Rig σ) : Rig σ :=
  { rig.cancelTimers with
    host, machine := rig.cancelTimers.machine.commit (rig.plan policy next) timer next }

/-- Arriving with the state timer of the plan completes the entry. -/
lemma entered_arrive {timer : Option TimerId} (host : Host)
    (htimer : timer.isSome = (rig.plan policy next).timer.isSome)
    (harmed : ∀ id, timer = some id →
      ∃ other ∈ host.timers.pending, other.id = id ∧ other.task = .transitNextState next)
    (hpending : ∀ other ∈ host.timers.pending, other ∈ rig.cancelTimers.host.timers.pending ∨
      timer = some other.id ∧ other.task = .transitNextState next)
    (hfresh : ∀ id, timer = some id →
      rig.host.timers.nextId ≤ id ∧ id < host.timers.nextId)
    (hdue : ∀ id, timer = some id → ∃ delay target,
      (rig.plan policy next).timer = some (delay, target) ∧ ∀ other ∈ host.timers.pending,
        other ∈ rig.cancelTimers.host.timers.pending ∨ other.due = rig.host.now + wrap64 delay)
    (hworked : Host.Worked (fun other => other.task = .transitNextState next) rig.host [] host)
    (hqueue : host.queue = rig.host.queue) (hstore : host.store = rig.host.store)
    (hwall : host.wall = rig.host.wall) :
    Entered policy next rig
      (arrive rig.machine.current (rig.committed policy next timer host)) := by
  have hsettled := settled_arrive rig.machine.current (rig.committed policy next timer host)
  have hphases := arrive_phaseTimer rig.machine.current (rig.committed policy next timer host) rfl
  -- From here on it does not matter how the machine arrives, only how that has settled.
  generalize arrive rig.machine.current (rig.committed policy next timer host) = after
    at hsettled hphases
  have hmachine := hsettled.machine
  rw [told_machine] at hmachine
  have hstateTimer : after.machine.stateTimer = timer := congrArg Machine.stateTimer hmachine
  have htold := worked_told
    (fun other => other.task = .transitNextState next ∨ other.task = .transitNextPhase next)
    rig.machine.current (rig.committed policy next timer host)
  have hcurrent : (told rig.machine.current (rig.committed policy next timer host)).machine.current
      = next := by
    rw [told_machine]
    rfl
  refine ⟨?_, ?_, hphases, hsettled.lock, ?_, ?_, ?_, ?_, ?_, ?_, ?_⟩
  · rw [hstateTimer]
    exact hmachine
  · rw [hstateTimer, htimer]
  · intro id hid
    obtain ⟨other, hmem, hother⟩ := harmed id (hstateTimer ▸ hid)
    exact ⟨other, hsettled.kept other (by rwa [told_timers]), hother⟩
  · intro other hmem
    rw [hstateTimer]
    rcases hsettled.pending other hmem with hold | hphase
    · rw [told_timers] at hold
      exact (hpending other hold).imp_right Or.inl
    · refine Or.inr (Or.inr ?_)
      rw [told_machine] at hphase
      exact hphase
  · rw [hsettled.queue, told_queue]
    exact ite_congr rfl (fun _ => hqueue) (fun _ => Host.announce_queue_congr _ _ hqueue)
  · rw [hsettled.store, told_store]
    exact ite_congr rfl (fun _ => hstore) (fun _ => Host.audit_store_congr _ _ hstore hwall)
  · have hheard : rig.host.heard = host.heard := by
      unfold Host.heard
      rw [hqueue]
    have hphase := hsettled.worked
    rw [hcurrent] at hphase
    have hwhole := ((hworked.weaken (fun other htask => Or.inl htask)).trans htold).trans
      (hphase.weaken (fun other htask => Or.inr htask))
    rw [List.nil_append, List.append_nil] at hwhole
    rw [hheard]
    exact hwhole
  · intro id hid
    exact (hfresh id (hstateTimer ▸ hid)).1
  · intro hcounted other hmem hid
    rw [hstateTimer] at hid
    obtain ⟨hleast, hless⟩ := hfresh other.id hid
    obtain ⟨delay, target, htarget, hdelay⟩ := hdue other.id hid
    refine ⟨delay, target, htarget, ?_⟩
    -- Only the state timer has its number: the old ones have lower numbers, that of the phase a
    -- higher one.
    have hcommitted : other ∈ host.timers.pending := by
      rcases hsettled.worked.pending other hmem with hold | ⟨-, hhigher, -⟩
      · rwa [told_timers] at hold
      · rw [told_timers] at hhigher
        exact absurd hless (Nat.not_lt.2 hhigher)
    refine (hdelay other hcommitted).resolve_left (fun hold => ?_)
    exact absurd (hcounted other (rig.mem_cancelTimers.1 hold).1) (Nat.not_lt.2 hleast)

/-- The entry was refused, or it succeeded. -/
theorem enter_cases (policy : Policy) (next : State) (rig : Rig σ) :
    (rig.host.timers.failing = true ∧ (rig.plan policy next).timer.isSome = true ∧
      rig.enter policy next = (false, rig.cancelTimers)) ∨
    ∃ after, rig.enter policy next = (true, after) ∧ Entered policy next rig after := by
  unfold enter
  dsimp only
  rw [← plan]
  cases htimer : (rig.plan policy next).timer with
  | none =>
    refine Or.inr ⟨_, rfl, entered_arrive rig.cancelTimers.host ?_ ?_ ?_ ?_ ?_ ?_ ?_ ?_ ?_⟩
    · rw [htimer]
      rfl
    · exact fun id hid => by cases hid
    · exact fun other hmem => Or.inl hmem
    · exact fun id hid => by cases hid
    · exact fun id hid => by cases hid
    · exact worked_cancelTimers rig _
    · exact rig.cancelTimers_queue
    · exact rig.cancelTimers_store
    · simp [cancelTimers]
  | some timer =>
    obtain ⟨delay, target⟩ := timer
    dsimp only
    cases hworks : rig.cancelTimers.host.timers.failing with
    | true =>
      rw [Host.arm_of_failing _ _ _ hworks]
      refine Or.inl ⟨?_, rfl, rfl⟩
      simpa [cancelTimers] using hworks
    | false =>
      obtain ⟨hnumber, hpending⟩ :=
        rig.cancelTimers.host.arm_of_works delay (.transitNextState next) hworks
      rcases harm : rig.cancelTimers.host.arm delay (.transitNextState next) with ⟨number, host⟩
      rw [harm] at hnumber hpending
      obtain rfl : number = some rig.cancelTimers.host.timers.nextId := hnumber
      have hhost : host = (rig.cancelTimers.host.arm delay (.transitNextState next)).2 := by
        rw [harm]
      have hcancelled : rig.cancelTimers.host.timers.nextId = rig.host.timers.nextId :=
        rig.cancelTimers_nextId
      refine Or.inr ⟨_, rfl, entered_arrive host ?_ ?_ ?_ ?_ ?_ ?_ ?_ ?_ ?_⟩
      · rw [htimer]
        rfl
      · intro id hid
        obtain rfl := Option.some.inj hid
        exact ⟨_, hpending ▸ List.mem_append_right _ (List.mem_singleton_self _), rfl, rfl⟩
      · intro other hmem
        change other ∈ host.timers.pending at hmem
        rw [hpending, List.mem_append, List.mem_singleton] at hmem
        rcases hmem with hmem | rfl
        · exact Or.inl hmem
        · exact Or.inr ⟨rfl, rfl⟩
      · intro id hid
        obtain rfl := Option.some.inj hid
        refine ⟨Nat.le_of_eq hcancelled.symm, ?_⟩
        rw [hhost, Host.arm_timers, TimerSource.arm, TimerSource.armAt, if_neg (by simp [hworks])]
        exact Nat.lt_succ_self _
      · intro id hid
        refine ⟨delay, target, htimer, fun other hmem => ?_⟩
        rw [hpending, List.mem_append, List.mem_singleton] at hmem
        refine hmem.imp_right (fun hother => ?_)
        rw [hother, cancelTimers_now]
      · rw [hhost]
        exact (worked_cancelTimers rig _).trans (.arm rig.cancelTimers.host rfl)
      · rw [hhost, Host.arm_queue, cancelTimers_queue]
      · rw [hhost, Host.arm_store, cancelTimers_store]
      · rw [hhost, Host.arm_wall]
        simp [cancelTimers]

lemma enterOrBlock_cases (policy : Policy) (next : State) (rig : Rig σ) :
    (rig.host.timers.failing = true ∧ (rig.plan policy next).timer.isSome = true ∧
      rig.enterOrBlock policy next = rig.cancelTimers.block) ∨
    Entered policy next rig (rig.enterOrBlock policy next) := by
  unfold enterOrBlock
  rcases enter_cases policy next rig with ⟨hfailing, htimer, henter⟩ | ⟨after, henter, hentered⟩
  · rw [henter]
    exact Or.inl ⟨hfailing, htimer, rfl⟩
  · rw [henter]
    exact Or.inr hentered

/-- A blocked machine that enters its state once more either does so or is left without timers. -/
lemma retry_cases (policy : Policy) (rig : Rig σ) :
    (rig.host.timers.failing = true ∧ (rig.enter policy rig.machine.current).2 = rig.cancelTimers) ∨
    Entered policy rig.machine.current rig (rig.enter policy rig.machine.current).2 := by
  rcases enter_cases policy rig.machine.current rig with
    ⟨hfailing, -, henter⟩ | ⟨after, henter, hentered⟩
  · rw [henter]
    exact Or.inl ⟨hfailing, rfl⟩
  · rw [henter]
    exact Or.inr hentered

/-- Working needs no timer, and so it can always be entered. -/
lemma entered_working (policy : Policy) (rig : Rig σ) :
    Entered policy .working rig (rig.enterOrBlock policy .working) := by
  rcases enterOrBlock_cases policy .working rig with ⟨-, htimer, -⟩ | hentered
  · cases htimer
  · exact hentered

end Rig

end DeviceStandby
