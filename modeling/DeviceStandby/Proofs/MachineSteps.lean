import DeviceStandby.Proofs.EnteredStates

/-!
# What a step of the state machine comes to

A machine is sound (`Machine.Sound`) if what it remembers fits together: it waits for the timer of a
phase only in sleep, for an answer only if it is not blocked, for a state only where its own state
may lead, and so on.  However many ways there are through the code, a step of a sound machine is one
of ten (`Rig.Step`): it rests; it wakes up, goes dark or enters its own state once more; it departs
for the state that its timer or a late answer leads to, is refused that, or waits for an answer; and
in sleep it enters the next phase, waits for the answer to that, or has done with phases.  Whatever
is to be shown of all steps is shown of these.
-/

namespace DeviceStandby

namespace Machine

/-- The machine sleeps, and there are phases ahead. -/
structure InPhases (m : Machine) : Prop where
  sleeps : m.current = .sleep
  ahead : m.phase < finalPhase
  unblocked : m.blocked = false

/-- The machine has scheduled the state, or awaits an answer about it. -/
def Expects (m : Machine) (next : State) : Prop :=
  m.nextState = some next ∨ m.awaited = some (.state next)

/-- What the machine remembers fits together. -/
structure Sound (m : Machine) : Prop where
  phase_le : m.phase ≤ finalPhase
  phase_eq_zero : m.current ≠ .sleep → m.phase = 0
  origin : m.current = .maintenance → m.maintenanceOrigin = .nap ∨ m.maintenanceOrigin = .sleep
  leads : ∀ next, m.nextState = some next → m.Leads next
  timer : m.stateTimer.isSome = true → m.nextState.isSome = true
  blocked : m.blocked = true → m.stateTimer = none ∧ m.nextState = none ∧ m.awaited = none
  working : m.current = .working → m.napDeadline = none
  phaseTimer : m.phaseTimer.isSome = true → m.InPhases ∧ m.awaited = none
  awaitedState : ∀ next, m.awaited = some (.state next) → m.Leads next ∧
    (next = .nap ∨ next = .sleep) ∧ m.stateTimer = none ∧ m.nextState = none
  awaitedPhase : ∀ next, m.awaited = some (.phase next) → m.InPhases ∧ next = m.phase + 1

namespace Leads

variable {m : Machine} {next : State}

lemma ne_working (h : m.Leads next) : m.current ≠ .working := by
  intro hworking
  simp [Leads, hworking] at h

/-- Sleep leads to maintenance only. -/
lemma ne_sleep (h : m.Leads next) (hnext : next = .nap ∨ next = .sleep) : m.current ≠ .sleep := by
  intro hsleep
  simp only [Leads, hsleep] at h
  subst h
  rcases hnext with hnext | hnext <;> cases hnext

end Leads

namespace Sound

variable {m : Machine} (h : m.Sound)
include h

lemma stateTimer_eq_none (hworking : m.current = .working) : m.stateTimer = none := by
  rcases htimer : m.stateTimer with _ | id
  · rfl
  · obtain ⟨next, hnext⟩ := Option.isSome_iff_exists.1 (h.timer (by rw [htimer]; rfl))
    exact absurd hworking (h.leads next hnext).ne_working

lemma phaseTimer_eq_none (hawake : m.current ≠ .sleep) : m.phaseTimer = none := by
  rcases htimer : m.phaseTimer with _ | id
  · rfl
  · exact absurd (h.phaseTimer (by rw [htimer]; rfl)).1.sleeps hawake

lemma phaseTimer_eq_none_of_blocked (hblocked : m.blocked = true) : m.phaseTimer = none := by
  rcases htimer : m.phaseTimer with _ | id
  · rfl
  · have hfree := (h.phaseTimer (by rw [htimer]; rfl)).1.unblocked
    rw [hblocked] at hfree
    cases hfree

lemma awaited_eq_none (hworking : m.current = .working) : m.awaited = none := by
  rcases hawaited : m.awaited with _ | next | next
  · rfl
  · exact absurd hworking (h.awaitedState next hawaited).1.ne_working
  · have hsleeps := (h.awaitedPhase next hawaited).1.sleeps
    rw [hworking] at hsleeps
    cases hsleeps

end Sound

end Machine

/-! ## Steps -/

/-- The timer that is delivered in a step, if there is one. -/
abbrev Delivery := Option (TimerId × TimerTask)

namespace Rig

variable {σ : Type}

/-- What is known of screen and charger after a message. -/
def noted (message : Message) (rig : Rig σ) : Rig σ :=
  { rig with machine := { rig.machine with
      screenOn :=
        if message.reports Action.screenOn then true
        else if message.reports Action.screenOff then false else rig.machine.screenOn
      charging :=
        if message.reports Action.charging then true
        else if message.reports Action.discharging then false else rig.machine.charging } }

/-- No state is scheduled or awaited any more. -/
def cleared (constraint : σ) (rig : Rig σ) : Rig σ :=
  { rig with
    constraint
    machine := { rig.machine with stateTimer := none, nextState := none, awaited := none } }

/-- No phase is scheduled or awaited any more. -/
def lulled (constraint : σ) (rig : Rig σ) : Rig σ :=
  { rig with constraint, machine := { rig.machine with phaseTimer := none, awaited := none } }

/-- The constraint, once it has given up what it was evaluating. -/
def freed (judge : Constraint σ) (rig : Rig σ) : σ :=
  if judge.isEvaluating rig.constraint || rig.machine.awaited.isSome then
    judge.stop rig.constraint
  else rig.constraint

/-- What the constraint says to the state that the timer leads to. -/
def verdict (judge : Constraint σ) (next : State) (rig : Rig σ) : Verdict :=
  (judge.start (stateQuestion rig.machine next) rig.host.devices (rig.freed judge)).1

/-- The state timer, as it is delivered. -/
def stateDelivery (rig : Rig σ) : Delivery :=
  rig.machine.stateTimer.map (fun id => (id, .transitNextState rig.machine.current))

/-- The phase timer, as it is delivered. -/
def phaseDelivery (rig : Rig σ) : Delivery :=
  rig.machine.phaseTimer.map (fun id => (id, .transitNextPhase rig.machine.current))

/-- What a step of a machine can come to. -/
inductive Step (policy : Policy) (rig : Rig σ) : Delivery → Rig σ → Prop where
  /-- The machine rests; what is delivered is not its state timer. -/
  | rest {delivery : Delivery}
      (stale : delivery.isSome = true → rig.stateDelivery ≠ delivery) :
      Step policy rig delivery rig
  /-- Only a device in use is woken up. -/
  | wake (constraint : σ)
      (inUse : rig.machine.screenOn = true ∨ rig.machine.charging = true) :
      Step policy rig none (enterOrBlock policy .working
        { rig with constraint, machine := { rig.machine with awaited := none } })
  | dark (idle : mayGoDark rig.machine = true) :
      Step policy rig none (rig.enterOrBlock policy .dark)
  | retry (blocked : rig.machine.blocked = true) :
      Step policy rig none (rig.enter policy rig.machine.current).2
  | depart {prepared : Rig σ} {next : State} (constraint : σ)
      (ready : prepared = rig.cleared constraint ∨ prepared = (rig.cleared constraint).acquireLock)
      (leads : rig.machine.Leads next) (expected : rig.machine.Expects next) :
      Step policy rig rig.stateDelivery (prepared.enterOrBlock policy next)
  | refuse {prepared : Rig σ} {next : State} (constraint : σ)
      (ready : prepared = rig.cleared constraint ∨ prepared = (rig.cleared constraint).acquireLock)
      (leads : rig.machine.Leads next) (asked : next = .nap ∨ next = .sleep) :
      Step policy rig rig.stateDelivery prepared.block
  | await {prepared : Rig σ} {next : State} (constraint : σ)
      (ready : prepared = (rig.cleared constraint).acquireLock)
      (leads : rig.machine.Leads next) (asked : next = .nap ∨ next = .sleep)
      (unblocked : rig.machine.blocked = false) :
      Step policy rig rig.stateDelivery
        { prepared with machine := { prepared.machine with awaited := some (.state next) } }
  | phase (constraint : σ) (ahead : rig.machine.InPhases) :
      Step policy rig rig.phaseDelivery
        (enterPhase (rig.machine.phase + 1) (rig.lulled constraint))
  | awaitPhase (constraint : σ) (ahead : rig.machine.InPhases) :
      Step policy rig rig.phaseDelivery { rig.lulled constraint with
        machine := { (rig.lulled constraint).machine with
          awaited := some (.phase (rig.machine.phase + 1)) } }
  | endPhases (constraint : σ) (ahead : rig.machine.InPhases) :
      Step policy rig rig.phaseDelivery (rig.lulled constraint).releaseLock

variable {rig : Rig σ} (judge : Constraint σ) (policy : Policy)

lemma step_retryIfBlocked (rig : Rig σ) : Step policy rig none (rig.retryIfBlocked policy) := by
  unfold retryIfBlocked
  split
  · rename_i hblocked
    exact .retry hblocked
  · exact .rest (fun hsome => by cases hsome)

lemma step_goDarkOrRetry (rig : Rig σ) : Step policy rig none (rig.goDarkOrRetry policy) := by
  unfold goDarkOrRetry
  split
  · rename_i hidle
    exact .dark hidle
  · exact step_retryIfBlocked policy rig

lemma step_wakeUp {rig : Rig σ}
    (hinUse : rig.machine.screenOn = true ∨ rig.machine.charging = true) :
    Step policy rig none (rig.wakeUp judge policy) := by
  unfold wakeUp
  split
  · exact .rest (fun hsome => by cases hsome)
  · exact .wake _ hinUse

lemma noted_of_ne {message : Message} (h : message.kind ≠ .commonEvent) :
    rig.noted message = rig := by
  simp [noted, Message.reports, h]

/-- A message is noted, and then a step is taken. -/
lemma step_handleEvent (message : Message) (rig : Rig σ) :
    Step policy (rig.noted message) none (rig.handleEvent judge policy message) := by
  unfold handleEvent
  split
  · rename_i hkind
    have hreports : ∀ action, message.reports action = decide (message.action = some action) := by
      intro action
      simp [Message.reports, hkind]
    split
    · rename_i haction
      have hnoted : rig.noted message =
          { rig with machine := { rig.machine with screenOn := true } } := by
        simp [noted, hreports, haction, Action.screenOn, Action.charging, Action.discharging]
      rw [hnoted]
      exact step_wakeUp judge policy (Or.inl rfl)
    · split
      · rename_i haction
        have hnoted : rig.noted message =
            { rig with machine := { rig.machine with charging := true } } := by
          simp [noted, hreports, haction, Action.screenOn, Action.charging, Action.screenOff]
        rw [hnoted]
        exact step_wakeUp judge policy (Or.inr rfl)
      · split
        · rename_i haction
          have hnoted : rig.noted message =
              { rig with machine := { rig.machine with screenOn := false } } := by
            simp [noted, hreports, haction, Action.screenOn, Action.screenOff, Action.charging,
              Action.discharging]
          rw [hnoted]
          exact step_goDarkOrRetry policy _
        · split
          · rename_i haction
            have hnoted : rig.noted message =
                { rig with machine := { rig.machine with charging := false } } := by
              simp [noted, hreports, haction, Action.screenOn, Action.screenOff, Action.charging,
                Action.discharging]
            rw [hnoted]
            exact step_goDarkOrRetry policy _
          · rename_i hon hcharging hoff hdischarging
            have hnoted : rig.noted message = rig := by
              simp [noted, hreports, hon, hcharging, hoff, hdischarging]
            rw [hnoted]
            exact step_retryIfBlocked policy rig
  · rename_i hkind
    rw [noted_of_ne (by rw [hkind]; decide)]
    exact step_retryIfBlocked policy rig
  · rename_i hkind _
    rw [noted_of_ne hkind]
    exact .rest (fun hsome => by cases hsome)

/-- A transition takes the wake lock and gives up what it awaited, before it asks. -/
lemma transit_eq (next : State) (rig : Rig σ) : transit judge policy next
    { rig with machine := { rig.machine with stateTimer := none, nextState := none } } =
      transitTo judge policy next (rig.cleared (rig.freed judge)).acquireLock := by
  unfold transit
  refine congrArg (transitTo judge policy next) ?_
  unfold freed acquireLock cleared
  cases hheld : rig.machine.lockHeld
  all_goals
    simp only [hheld, if_true, Bool.false_eq_true, if_false]
    split
    · rfl
    · rename_i hidle
      simp only [Bool.or_eq_true, not_or, Option.not_isSome_iff_eq_none] at hidle
      rw [hidle.2]

/-- Nothing but nap and sleep is asked about. -/
lemma transit_unasked {next : State} (hasked : ¬ (next = .nap ∨ next = .sleep)) (rig : Rig σ) :
    transit judge policy next
      { rig with machine := { rig.machine with stateTimer := none, nextState := none } } =
    (rig.cleared (rig.freed judge)).acquireLock.enterOrBlock policy next := by
  rw [transit_eq, transitTo, if_neg (by simpa using hasked)]

/-- What becomes of a transition to nap or sleep is up to the constraint.  To ask it changes nothing
but the constraint, so the machine is as ready as before. -/
lemma transit_asked {next : State} (hasked : next = .nap ∨ next = .sleep) (rig : Rig σ) :
    ∃ later, transit judge policy next
      { rig with machine := { rig.machine with stateTimer := none, nextState := none } } =
    match rig.verdict judge next with
    | .pass => (rig.cleared later).acquireLock.enterOrBlock policy next
    | .veto _ => (rig.cleared later).acquireLock.block
    | .pending => { (rig.cleared later).acquireLock with machine :=
        { (rig.cleared later).acquireLock.machine with awaited := some (.state next) } } := by
  refine ⟨(judge.start (stateQuestion rig.machine next) rig.host.devices (rig.freed judge)).2, ?_⟩
  have hask : (rig.cleared (rig.freed judge)).acquireLock.ask judge
      (stateQuestion (rig.cleared (rig.freed judge)).acquireLock.machine next) =
      (rig.verdict judge next, (rig.cleared
        (judge.start (stateQuestion rig.machine next) rig.host.devices
          (rig.freed judge)).2).acquireLock) := by
    unfold ask verdict acquireLock cleared
    dsimp only
    split <;> rfl
  rw [transit_eq, transitTo, if_pos (by simpa using hasked), hask]
  cases rig.verdict judge next <;> rfl

/-- A transition departs, is refused or waits for an answer, with the wake lock taken. -/
lemma step_transit {next : State} {rig : Rig σ} (hleads : rig.machine.Leads next)
    (hexpected : rig.machine.Expects next) (hunblocked : rig.machine.blocked = false) :
    Step policy rig rig.stateDelivery (transit judge policy next
      { rig with machine := { rig.machine with stateTimer := none, nextState := none } }) := by
  by_cases hasked : next = .nap ∨ next = .sleep
  · obtain ⟨later, htransit⟩ := transit_asked judge policy hasked rig
    rw [htransit]
    cases rig.verdict judge next with
    | pass => exact .depart later (Or.inr rfl) hleads hexpected
    | veto reason => exact .refuse later (Or.inr rfl) hleads hasked
    | pending => exact .await later rfl hleads hasked hunblocked
  · rw [transit_unasked judge policy hasked]
    exact .depart _ (Or.inr rfl) hleads hexpected

/-- When its time has come, the next phase is entered or refused, or an answer is awaited. -/
lemma step_advancePhase {rig : Rig σ} (h : rig.machine.Sound) {id : TimerId}
    (htimer : rig.machine.phaseTimer = some id) :
    Step policy rig rig.phaseDelivery
      (advancePhase judge { rig with machine := { rig.machine with phaseTimer := none } }) := by
  obtain ⟨hahead, hawaited⟩ := h.phaseTimer (by rw [htimer]; rfl)
  obtain ⟨later, hlater⟩ : ∃ later, (ask judge
      (phaseQuestion ({ rig.machine with phaseTimer := none } : Machine))
      { rig with machine := { rig.machine with phaseTimer := none } }).2 = rig.lulled later := by
    refine ⟨(judge.start (phaseQuestion rig.machine) rig.host.devices rig.constraint).2, ?_⟩
    unfold ask lulled
    dsimp only
    rw [hawaited]
    rfl
  unfold advancePhase
  dsimp only
  rcases hanswer : ask judge (phaseQuestion ({ rig.machine with phaseTimer := none } : Machine))
    { rig with machine := { rig.machine with phaseTimer := none } } with ⟨_ | _ | _, asked⟩
  all_goals
    rw [hanswer] at hlater
    obtain rfl : asked = rig.lulled later := hlater
  · exact .phase later hahead
  · exact .endPhases later hahead
  · exact .awaitPhase later hahead

/-- A delivered timer makes a sound machine take a step. -/
lemma step_onTimer {rig : Rig σ} (h : rig.machine.Sound) (id : TimerId) (task : TimerTask) :
    Step policy rig (some (id, task)) (rig.onTimer judge policy id task) := by
  unfold onTimer
  cases task with
  | transitNextState source =>
    dsimp only
    split
    · rename_i hdue
      simp only [Bool.and_eq_true, decide_eq_true_eq] at hdue
      obtain ⟨htimer, rfl⟩ := hdue
      obtain ⟨next, hnext⟩ := Option.isSome_iff_exists.1 (h.timer (by rw [htimer]; rfl))
      have hdelivery : rig.stateDelivery = some (id, .transitNextState rig.machine.current) := by
        rw [stateDelivery, htimer]
        rfl
      rw [hnext, ← hdelivery]
      -- The machine is not blocked, because then it would not remember the timer.
      refine step_transit judge policy (h.leads next hnext) (Or.inl hnext)
        (Bool.eq_false_iff.2 fun hblocked => ?_)
      rw [(h.blocked hblocked).1] at htimer
      cases htimer
    · rename_i hstale
      refine .rest (fun _ hdelivery => hstale ?_)
      obtain ⟨number, htimer, heq⟩ := Option.map_eq_some_iff.1 hdelivery
      cases heq
      simpa using htimer
  | transitNextPhase state =>
    dsimp only
    split
    · rename_i hdue
      simp only [Bool.and_eq_true, decide_eq_true_eq] at hdue
      obtain ⟨htimer, rfl⟩ := hdue
      have hdelivery : rig.phaseDelivery = some (id, .transitNextPhase rig.machine.current) := by
        rw [phaseDelivery, htimer]
        rfl
      rw [← hdelivery]
      exact step_advancePhase judge policy h htimer
    · exact .rest (fun _ hdelivery => by simp [stateDelivery] at hdelivery)
  | revokeExpired uid name mask =>
    exact .rest (fun _ hdelivery => by simp [stateDelivery] at hdelivery)
  | dayNightSwitch => exact .rest (fun _ hdelivery => by simp [stateDelivery] at hdelivery)

/-- A late answer makes a sound machine take a step. -/
lemma step_endEvaluation {rig : Rig σ} (h : rig.machine.Sound) (passed : Bool) :
    Step policy rig none (rig.endEvaluation policy passed) := by
  unfold endEvaluation
  dsimp only
  rcases hawaited : rig.machine.awaited with _ | next | next
  · have hsame : ({ rig with machine := { rig.machine with awaited := none } } : Rig σ) = rig := by
      rw [← hawaited]
    dsimp only
    rw [hsame]
    exact .rest (fun hsome => by cases hsome)
  · obtain ⟨hleads, hasked, htimer, hnext⟩ := h.awaitedState next hawaited
    have hcleared : ({ rig with machine := { rig.machine with awaited := none } } : Rig σ) =
        rig.cleared rig.constraint := by
      unfold cleared
      dsimp only
      rw [← htimer, ← hnext]
    have hdelivery : rig.stateDelivery = none := by
      rw [stateDelivery, htimer]
      rfl
    dsimp only
    rw [hcleared, ← hdelivery]
    split
    · exact .depart rig.constraint (Or.inl rfl) hleads (Or.inr hawaited)
    · exact .refuse rig.constraint (Or.inl rfl) hleads hasked
  · obtain ⟨hahead, rfl⟩ := h.awaitedPhase next hawaited
    have htimer : rig.machine.phaseTimer = none := by
      rcases htimer : rig.machine.phaseTimer with _ | id
      · rfl
      · have hnone := (h.phaseTimer (by rw [htimer]; rfl)).2
        rw [hawaited] at hnone
        cases hnone
    have hlulled : ({ rig with machine := { rig.machine with awaited := none } } : Rig σ) =
        rig.lulled rig.constraint := by
      unfold lulled
      dsimp only
      rw [← htimer]
    have hdelivery : rig.phaseDelivery = none := by
      rw [phaseDelivery, htimer]
      rfl
    dsimp only
    rw [hlulled, ← hdelivery]
    split
    · exact .phase rig.constraint hahead
    · exact .endPhases rig.constraint hahead

/-! ## Soundness is kept -/

/-- Clearing the schedule touches nothing else of the machine, and of the host only the wake
lock. -/
lemma ready_frame {rig prepared : Rig σ} {constraint : σ}
    (h : prepared = rig.cleared constraint ∨ prepared = (rig.cleared constraint).acquireLock) :
    prepared.machine = { rig.machine with
      stateTimer := none, nextState := none, awaited := none
      lockHeld := prepared.machine.lockHeld } ∧
    prepared.host.timers = rig.host.timers ∧ prepared.host.queue = rig.host.queue ∧
    prepared.host.store = rig.host.store := by
  rcases h with rfl | rfl
  · exact ⟨rfl, rfl, rfl, rfl⟩
  · rw [acquireLock_machine, acquireLock_timers, acquireLock_queue, acquireLock_store]
    exact ⟨rfl, rfl, rfl, rfl⟩

/-- The machine has entered a phase, and told of it. -/
def phased (next : Nat) (rig : Rig σ) : Rig σ :=
  { rig with
    host := rig.host.announce (.phaseTransit rig.machine.current rig.machine.phase next)
    machine := { rig.machine with phase := next } }

lemma settled_enterPhase (next : Nat) (rig : Rig σ) :
    Settled (rig.phased next) (rig.enterPhase next) := by
  unfold enterPhase
  dsimp only
  split
  · exact settled_releaseLock _
  · exact settled_armPhaseTimer _

/-- In the last phase no timer for another one is armed. -/
lemma enterPhase_phaseTimer {next : Nat} {rig : Rig σ} (hnone : rig.machine.phaseTimer = none)
    (h : (rig.enterPhase next).machine.phaseTimer.isSome = true) : next < Machine.finalPhase := by
  unfold enterPhase at h
  dsimp only at h
  split at h
  · simp [hnone] at h
  · omega

end Rig

namespace Machine

lemma Leads.mayMaintain {m : Machine} (h : m.Leads .maintenance) : m.MayMaintain := by
  unfold Leads at h
  unfold MayMaintain nextOrigin
  cases hcurrent : m.current with
  | working | dark | maintenance => simp [hcurrent] at h
  | nap => exact Or.inl rfl
  | sleep => exact Or.inr rfl

lemma Sound.mayMaintain {m : Machine} (h : m.Sound) (hcurrent : m.current = .maintenance) :
    m.MayMaintain := by
  rw [MayMaintain, nextOrigin, if_pos hcurrent]
  exact h.origin hcurrent

lemma Sound.nextState_eq_none {m : Machine} (h : m.Sound) (hworking : m.current = .working) :
    m.nextState = none := by
  rcases hnext : m.nextState with _ | next
  · rfl
  · exact absurd hworking (h.leads next hnext).ne_working

/-- A blocked machine that has nothing scheduled is sound. -/
lemma Sound.halted {m : Machine} (h : m.Sound) (lockHeld : Bool) : ({ m with
    stateTimer := none, nextState := none, phaseTimer := none, awaited := none
    blocked := true, lockHeld } : Machine).Sound where
  phase_le := h.phase_le
  phase_eq_zero := h.phase_eq_zero
  origin := h.origin
  leads := fun next hnext => by cases hnext
  timer := fun htimer => by cases htimer
  blocked := fun _ => ⟨rfl, rfl, rfl⟩
  working := h.working
  phaseTimer := fun htimer => by cases htimer
  awaitedState := fun next hawaited => by cases hawaited
  awaitedPhase := fun next hawaited => by cases hawaited

/-- A machine stays sound when its schedule is cleared. -/
lemma Sound.cleared {m : Machine} (h : m.Sound) (lockHeld : Bool) : ({ m with
    stateTimer := none, nextState := none, awaited := none, lockHeld } : Machine).Sound where
  phase_le := h.phase_le
  phase_eq_zero := h.phase_eq_zero
  origin := h.origin
  leads := fun next hnext => by cases hnext
  timer := fun htimer => by cases htimer
  blocked := fun _ => ⟨rfl, rfl, rfl⟩
  working := h.working
  phaseTimer := fun htimer =>
    ⟨⟨(h.phaseTimer htimer).1.sleeps, (h.phaseTimer htimer).1.ahead,
      (h.phaseTimer htimer).1.unblocked⟩, rfl⟩
  awaitedState := fun next hawaited => by cases hawaited
  awaitedPhase := fun next hawaited => by cases hawaited

/-- A machine that is not blocked stays sound when it awaits what its state leads to. -/
lemma Sound.expecting {m : Machine} (h : m.Sound) (lockHeld : Bool) {next : State}
    (hleads : m.Leads next) (hasked : next = .nap ∨ next = .sleep) (hfree : m.blocked = false) :
    ({ m with stateTimer := none, nextState := none, awaited := some (.state next), lockHeld }
      : Machine).Sound where
  phase_le := h.phase_le
  phase_eq_zero := h.phase_eq_zero
  origin := h.origin
  leads := fun target htarget => by cases htarget
  timer := fun htimer => by cases htimer
  blocked := by
    intro (hblocked : m.blocked = true)
    rw [hblocked] at hfree
    cases hfree
  working := h.working
  phaseTimer := by
    intro (htimer : m.phaseTimer.isSome = true)
    rw [h.phaseTimer_eq_none (hleads.ne_sleep hasked)] at htimer
    cases htimer
  awaitedState := by
    intro target htarget
    cases htarget
    exact ⟨hleads, hasked, rfl, rfl⟩
  awaitedPhase := fun target htarget => by cases htarget

/-- A machine that sleeps stays sound when a phase is entered or awaited. -/
lemma Sound.phased {m : Machine} (h : m.Sound) (ahead : m.InPhases) {phase : Nat}
    {phaseTimer : Option TimerId} {awaited : Option Awaited} (lockHeld : Bool)
    (hphase : phase ≤ finalPhase)
    (htimer : phaseTimer.isSome = true → phase < finalPhase ∧ awaited = none)
    (hawaited : ∀ expected, awaited = some expected →
      phase < finalPhase ∧ expected = .phase (phase + 1)) :
    ({ m with phase, phaseTimer, awaited, lockHeld } : Machine).Sound where
  phase_le := hphase
  phase_eq_zero := fun hawake => absurd ahead.sleeps hawake
  origin := h.origin
  leads := h.leads
  timer := h.timer
  blocked := by
    intro (hblocked : m.blocked = true)
    rw [ahead.unblocked] at hblocked
    cases hblocked
  working := h.working
  phaseTimer := fun hsome =>
    ⟨⟨ahead.sleeps, (htimer hsome).1, ahead.unblocked⟩, (htimer hsome).2⟩
  awaitedState := by
    intro next hnext
    cases (hawaited _ hnext).2
  awaitedPhase := by
    intro next hnext
    obtain ⟨hahead, heq⟩ := hawaited _ hnext
    cases heq
    exact ⟨⟨ahead.sleeps, hahead, ahead.unblocked⟩, rfl⟩

end Machine

namespace Rig

variable {σ : Type} {policy : Policy} {rig after : Rig σ}

/-- Entering a state makes a machine sound, if its phases were in order and maintenance is entered
from nap or sleep. -/
lemma Entered.sound {next : State} (h : Entered policy next rig after)
    (hphase : rig.machine.phase ≤ Machine.finalPhase)
    (hzero : rig.machine.current ≠ .sleep → rig.machine.phase = 0)
    (horigin : next = .maintenance → rig.machine.MayMaintain) : after.machine.Sound where
  phase_le := by
    rw [h.phase]
    split
    · exact hphase
    · exact Nat.zero_le _
  phase_eq_zero := by
    intro hawake
    rw [h.current] at hawake
    rw [h.phase]
    split
    · rename_i hsame
      exact hzero (hsame ▸ hawake)
    · rfl
  origin := by
    intro hmaintenance
    rw [h.current] at hmaintenance
    rw [h.origin, if_pos hmaintenance]
    exact horigin hmaintenance
  leads := fun target htarget => h.leads horigin htarget
  timer := by
    intro htimer
    rwa [h.nextState_isSome]
  blocked := by
    intro hblocked
    rw [h.unblocked] at hblocked
    cases hblocked
  working := by
    intro hworking
    rw [h.current] at hworking
    rw [h.napDeadline, hworking]
    rfl
  phaseTimer := by
    intro htimer
    obtain ⟨hnew, hsleep⟩ := h.phases htimer
    refine ⟨⟨h.current.trans hsleep, ?_, h.unblocked⟩, h.awaited⟩
    rw [h.phase, if_neg hnew]
    decide
  awaitedState := by
    intro target hawaited
    rw [h.awaited] at hawaited
    cases hawaited
  awaitedPhase := by
    intro target hawaited
    rw [h.awaited] at hawaited
    cases hawaited

/-- Whether or not the state can be entered, the machine is sound after that. -/
lemma sound_enterOrBlock {next : State} (h : rig.machine.Sound)
    (hnone : rig.machine.nextState = none)
    (horigin : next = .maintenance → rig.machine.MayMaintain) :
    (rig.enterOrBlock policy next).machine.Sound := by
  rcases enterOrBlock_cases policy next rig with ⟨-, -, hrefused⟩ | hentered
  · have hhalted := h.halted false
    rw [← hnone] at hhalted
    rw [hrefused, block_machine]
    exact hhalted
  · exact hentered.sound h.phase_le h.phase_eq_zero horigin

/-- Every step of a sound machine leaves it sound. -/
theorem Step.sound {delivery : Delivery} (hstep : Step policy rig delivery after)
    (h : rig.machine.Sound) : after.machine.Sound := by
  cases hstep with
  | rest => exact h
  | wake constraint =>
    exact (entered_working policy _).sound h.phase_le h.phase_eq_zero (fun heq => by cases heq)
  | dark idle =>
    simp only [mayGoDark, Bool.and_eq_true, decide_eq_true_eq] at idle
    exact sound_enterOrBlock h (h.nextState_eq_none idle.1.1) (fun heq => by cases heq)
  | retry blocked =>
    rcases retry_cases policy rig with ⟨-, hrefused⟩ | hentered
    · -- A blocked machine has nothing scheduled, so a refused entry cannot lose it.
      obtain ⟨-, hnext, hawaited⟩ := h.blocked blocked
      have hhalted := h.halted rig.machine.lockHeld
      rw [← hnext, ← hawaited, ← blocked] at hhalted
      rw [hrefused]
      exact hhalted
    · exact hentered.sound h.phase_le h.phase_eq_zero h.mayMaintain
  | depart constraint ready leads =>
    obtain ⟨hmachine, -⟩ := ready_frame ready
    refine sound_enterOrBlock ?_ ?_ ?_
    · rw [hmachine]
      exact h.cleared _
    · rw [hmachine]
    · rintro rfl
      rw [hmachine]
      exact leads.mayMaintain
  | refuse constraint ready leads asked =>
    obtain ⟨hmachine, -⟩ := ready_frame ready
    rw [block_machine, hmachine]
    dsimp only
    -- The constraint is asked about nap and sleep only, and sleep leads to neither.
    rw [h.phaseTimer_eq_none (leads.ne_sleep asked)]
    exact h.halted false
  | await constraint ready leads asked unblocked =>
    obtain ⟨hmachine, -⟩ := ready_frame (Or.inr ready)
    rw [hmachine]
    exact h.expecting _ leads asked unblocked
  | phase constraint ahead =>
    have hnext : rig.machine.phase + 1 ≤ Machine.finalPhase := ahead.ahead
    rw [(settled_enterPhase _ _).machine]
    exact h.phased ahead _ hnext (fun htimer => ⟨enterPhase_phaseTimer rfl htimer, rfl⟩)
      (fun expected hawaited => by cases hawaited)
  | awaitPhase constraint ahead =>
    refine h.phased ahead _ h.phase_le (fun htimer => by cases htimer) (fun expected hawaited => ?_)
    exact ⟨ahead.ahead, (Option.some.inj hawaited).symm⟩
  | endPhases constraint ahead =>
    rw [releaseLock_machine]
    exact h.phased ahead _ h.phase_le (fun htimer => by cases htimer)
      (fun expected hawaited => by cases hawaited)

end Rig

end DeviceStandby
