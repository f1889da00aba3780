import DeviceStandby.Proofs.ActiveUse
import Mathlib.Data.List.Induction

/-!
# When an idle device is left awake

In working a message that the screen is off, or that the device discharges, makes the machine go
dark if the device is idle then.  Nothing else does, and so there are two ways for an idle device to
stay awake (`MachineRun.Missed`).  The machine can be started while the device is idle: it begins in
working, and keeps what it knows of the screen and the charger.  Or no timer can be armed when the
message comes: this blocks the machine in working, and the event that makes it try again lets it
enter working once more, not dark.

Both last only until the next message about the screen or the charger.
-/

namespace DeviceStandby

/-- Whether the message tells that the screen, or the charger, is not in use any more. -/
def Rig.tellsRest (message : Message) : Prop :=
  message.reports Action.screenOff = true ∨ message.reports Action.discharging = true

namespace MachineMove

variable {σ : Type}

/-- Whether the move tells of the screen or of the charger, or starts the machine. -/
def Informs : MachineMove σ → Prop
  | handle message => Rig.tellsUse message ∨ Rig.tellsRest message
  | init => True
  | _ => False

/-- Whether the move makes a blocked machine try again. -/
def Retries : MachineMove σ → Prop
  | handle message => message.kind = .commonEvent ∨ message.kind = .deviceStateChanged
  | _ => False

end MachineMove

lemma Machine.Leads.target_ne_working {m : Machine} {next : State} (h : m.Leads next) :
    next ≠ .working := by
  rintro rfl
  unfold Leads at h
  cases hcurrent : m.current <;> simp [hcurrent] at h

/-! ## Steps of an idle device -/

namespace Rig

variable {σ : Type} {judge : Constraint σ} {policy : Policy} {rig after : Rig σ}

lemma mayGoDark_iff {m : Machine} : mayGoDark m = true ↔
    m.current = .working ∧ m.screenOn = false ∧ m.charging = false := by
  simp [mayGoDark, and_assoc]

lemma inUse_of_not_mayGoDark {m : Machine} (hworking : m.current = .working)
    (h : ¬ mayGoDark m = true) : m.screenOn = true ∨ m.charging = true := by
  by_contra hidle
  simp only [not_or, Bool.not_eq_true] at hidle
  exact h (mayGoDark_iff.2 ⟨hworking, hidle⟩)

/-- Only a device in use comes back to working. -/
lemma Step.awake {delivery : Delivery} (hstep : Step policy rig delivery after)
    (h : after.machine.current = .working) : rig.machine.current = .working ∨
      rig.machine.screenOn = true ∨ rig.machine.charging = true := by
  cases hstep with
  | rest => exact Or.inl h
  | wake constraint inUse => exact Or.inr inUse
  | dark idle => exact Or.inl (mayGoDark_iff.1 idle).1
  | retry blocked =>
    rcases retry_cases policy rig with ⟨-, hrefused⟩ | hentered
    · rw [hrefused] at h
      exact Or.inl h
    · exact Or.inl (hentered.current.symm.trans h)
  | @depart prepared next constraint ready leads =>
    obtain ⟨hmachine, -⟩ := ready_frame ready
    rcases enterOrBlock_cases policy next prepared with ⟨-, -, hrefused⟩ | hentered
    · rw [hrefused, block_machine, cancelTimers_machine, hmachine] at h
      exact Or.inl h
    · exact absurd (hentered.current.symm.trans h) leads.target_ne_working
  | refuse constraint ready leads asked =>
    obtain ⟨hmachine, -⟩ := ready_frame ready
    rw [block_machine, hmachine] at h
    exact Or.inl h
  | await constraint ready leads asked unblocked =>
    obtain ⟨hmachine, -⟩ := ready_frame (Or.inr ready)
    rw [hmachine] at h
    exact Or.inl h
  | phase constraint ahead =>
    rw [(settled_enterPhase _ _).machine] at h
    exact Or.inl h
  | awaitPhase constraint ahead => exact Or.inl h
  | endPhases constraint ahead =>
    rw [releaseLock_machine] at h
    exact Or.inl h

/-- An idle device that is awake after a step was so before it. -/
lemma Step.mayGoDark {delivery : Delivery} (hstep : Step policy rig delivery after)
    (h : mayGoDark after.machine = true) : mayGoDark rig.machine = true := by
  obtain ⟨hworking, hoff, huncharged⟩ := mayGoDark_iff.1 h
  obtain ⟨hscreen, hcharging⟩ := hstep.senses
  rw [hscreen] at hoff
  rw [hcharging] at huncharged
  have hawake := hstep.awake hworking
  simp only [hoff, huncharged, Bool.false_eq_true, or_false] at hawake
  exact mayGoDark_iff.2 ⟨hawake, hoff, huncharged⟩

/-- In working there is no timer and no answer to take note of. -/
lemma onTimer_of_working (h : rig.machine.Sound) (hworking : rig.machine.current = .working)
    (id : TimerId) (task : TimerTask) : rig.onTimer judge policy id task = rig := by
  have hawake : rig.machine.current ≠ .sleep := by
    rw [hworking]
    decide
  unfold onTimer
  cases task <;> simp [h.stateTimer_eq_none hworking, h.phaseTimer_eq_none hawake]

lemma endEvaluation_of_working (h : rig.machine.Sound) (hworking : rig.machine.current = .working)
    (passed : Bool) : rig.endEvaluation policy passed = rig := by
  have hawaited := h.awaited_eq_none hworking
  unfold endEvaluation
  rw [hawaited]
  dsimp only
  rw [← hawaited]

lemma handleEvent_of_tellsRest {message : Message} (h : tellsRest message) :
    rig.handleEvent judge policy message = (rig.noted message).goDarkOrRetry policy := by
  have hkind : message.kind = .commonEvent := by
    rcases h with h | h <;> simp [Message.reports] at h <;> exact h.1
  have haction : message.action = some Action.screenOff ∨
      message.action = some Action.discharging := by
    rcases h with h | h <;> simp [Message.reports] at h
    · exact Or.inl h.2
    · exact Or.inr h.2
  unfold handleEvent noted Message.reports
  rw [hkind]
  rcases haction with haction | haction <;>
    simp [haction, Action.screenOn, Action.screenOff, Action.charging, Action.discharging]

/-- A message that tells nothing of screen and charger makes a blocked machine try again, or it is
no matter. -/
lemma handleEvent_of_silent (judge : Constraint σ) (policy : Policy) (rig : Rig σ)
    {message : Message} (huse : ¬ tellsUse message)
    (hrest : ¬ tellsRest message) : rig.handleEvent judge policy message =
      if message.kind = .commonEvent ∨ message.kind = .deviceStateChanged
        then rig.retryIfBlocked policy else rig := by
  simp only [tellsUse, tellsRest, Message.reports, Bool.and_eq_true, decide_eq_true_eq,
    not_or, not_and] at huse hrest
  unfold handleEvent
  split
  · rename_i hkind
    simp [hkind, huse.1 hkind, huse.2 hkind, hrest.1 hkind, hrest.2 hkind]
  · rename_i hkind
    simp [hkind]
  · rename_i hevent hdevice
    rw [if_neg (not_or.2 ⟨hevent, hdevice⟩)]

/-- A message about the screen or the charger leaves an idle device awake only if no timer can be
armed; then the machine is blocked. -/
lemma mayGoDark_handleEvent {message : Message} (hinforms : tellsUse message ∨ tellsRest message)
    (h : mayGoDark (rig.handleEvent judge policy message).machine = true) :
    tellsRest message ∧ rig.machine.current = .working ∧ rig.host.timers.failing = true ∧
      (rig.handleEvent judge policy message).machine.blocked = true := by
  have hstep := step_handleEvent judge policy message rig
  have hidle := hstep.mayGoDark h
  have hrest : tellsRest message := by
    refine hinforms.resolve_left (fun huse => ?_)
    obtain ⟨-, hoff, huncharged⟩ := mayGoDark_iff.1 hidle
    rcases huse with huse | huse <;> simp [noted, huse] at hoff huncharged
  rw [handleEvent_of_tellsRest hrest, goDarkOrRetry, if_pos hidle] at h ⊢
  refine ⟨hrest, (mayGoDark_iff.1 hidle).1, ?_⟩
  rcases enterOrBlock_cases policy .dark (rig.noted message) with ⟨hfailing, -, hrefused⟩ | hentered
  · rw [hrefused, block_machine]
    exact ⟨hfailing, rfl⟩
  · have hdark := (mayGoDark_iff.1 h).1
    rw [hentered.current] at hdark
    cases hdark

/-- If timers can be armed, an idle device goes dark when it is told to rest. -/
lemma handleEvent_of_armable {message : Message} (hrest : tellsRest message)
    (hworking : rig.machine.current = .working) (hworks : rig.host.timers.failing = false) :
    (rig.handleEvent judge policy message).machine.screenOn = true ∨
      (rig.handleEvent judge policy message).machine.charging = true ∨
      (rig.handleEvent judge policy message).machine.current = .dark := by
  obtain ⟨hscreen, hcharging⟩ := (step_handleEvent judge policy message rig).senses
  rw [hscreen, hcharging]
  by_cases hidle : Rig.mayGoDark (rig.noted message).machine = true
  · rw [handleEvent_of_tellsRest hrest, goDarkOrRetry, if_pos hidle]
    rcases enterOrBlock_cases policy .dark (rig.noted message) with ⟨hfailing, -⟩ | hentered
    · have hfails : rig.host.timers.failing = true := hfailing
      rw [hworks] at hfails
      cases hfails
    · exact Or.inr (Or.inr hentered.current)
  · have hinUse := inUse_of_not_mayGoDark (m := (rig.noted message).machine) hworking hidle
    exact hinUse.imp_right Or.inl

/-- Any other move leaves an idle device awake only if it was so before, and blocked as it was
unless it makes the machine try again. -/
lemma mayGoDark_moved (hsound : rig.machine.Sound) {move : MachineMove σ} (hmove : ¬ move.Informs)
    (h : mayGoDark (rig.moved judge policy move).machine = true) :
    mayGoDark rig.machine = true ∧
      (move.Retries ∨ (rig.moved judge policy move).machine.blocked = rig.machine.blocked) := by
  cases move with
  | handle message =>
    obtain ⟨huse, hrest⟩ := not_or.1 hmove
    have hsilent := handleEvent_of_silent judge policy rig huse hrest
    change mayGoDark (rig.handleEvent judge policy message).machine = true at h
    show mayGoDark rig.machine = true ∧ (_ ∨
      (rig.handleEvent judge policy message).machine.blocked = rig.machine.blocked)
    rw [hsilent] at h ⊢
    split at h
    · rename_i hkind
      exact ⟨(step_retryIfBlocked policy rig).mayGoDark h, Or.inl hkind⟩
    · rename_i hkind
      rw [if_neg hkind]
      exact ⟨h, Or.inr rfl⟩
  | deliver id task =>
    have hidle := (step_onTimer judge policy hsound id task).mayGoDark h
    refine ⟨hidle, Or.inr ?_⟩
    rw [moved, onTimer_of_working hsound (mayGoDark_iff.1 hidle).1]
  | answer passed =>
    have hidle := (step_endEvaluation policy hsound passed).mayGoDark h
    refine ⟨hidle, Or.inr ?_⟩
    rw [moved, endEvaluation_of_working hsound (mayGoDark_iff.1 hidle).1]
  | uninit =>
    rw [moved, uninit_machine] at h ⊢
    exact ⟨h, Or.inr rfl⟩
  | refusePhase =>
    rw [moved, refusePhase_machine] at h ⊢
    exact ⟨h, Or.inr rfl⟩
  | host | reload | think => exact ⟨h, Or.inr rfl⟩
  | init => exact absurd trivial hmove

end Rig

/-! ## Runs -/

namespace MachineRun

variable {σ : Type} {judge : Constraint σ} {start : MachineRun σ} {moves : List (MachineMove σ)}

lemma afterAll_append (judge : Constraint σ) (run : MachineRun σ)
    (moves more : List (MachineMove σ)) :
    run.afterAll judge (moves ++ more) = (run.afterAll judge moves).afterAll judge more :=
  List.foldl_append

/-- Why an idle device is awake, or blocked in working, after some moves. -/
inductive Missed (judge : Constraint σ) (start : MachineRun σ) (moves : List (MachineMove σ)) : Prop
  /-- The machine was started while the device was idle, and was told nothing since. -/
  | restarted {earlier later : List (MachineMove σ)} (split : moves = earlier ++ .init :: later)
      (idle : (start.afterAll judge earlier).rig.machine.screenOn = false ∧
        (start.afterAll judge earlier).rig.machine.charging = false)
      (last : ∀ move ∈ later, ¬ move.Informs)
  /-- The machine was told last when no timer could be armed.  This has blocked it in working, and
  it is not blocked any more only if it has tried again. -/
  | refused {earlier later : List (MachineMove σ)} {message : Message}
      (split : moves = earlier ++ .handle message :: later)
      (rest : Rig.tellsRest message)
      (working : (start.afterAll judge earlier).rig.machine.current = .working)
      (failing : (start.afterAll judge earlier).rig.host.timers.failing = true)
      (blocked : ((start.afterAll judge earlier).after judge
        (.handle message)).rig.machine.blocked = true)
      (last : ∀ move ∈ later, ¬ move.Informs)
      (retried : (start.afterAll judge moves).rig.machine.blocked = true ∨
        ∃ move ∈ later, move.Retries)

/-- A chance that was missed stays missed through moves that tell nothing. -/
lemma Missed.snoc (h : Missed judge start moves) {move : MachineMove σ} (hmove : ¬ move.Informs)
    (hblocked : move.Retries ∨ (start.afterAll judge (moves ++ [move])).rig.machine.blocked =
      (start.afterAll judge moves).rig.machine.blocked) :
    Missed judge start (moves ++ [move]) := by
  have hlast : ∀ {later : List (MachineMove σ)}, (∀ other ∈ later, ¬ other.Informs) →
      ∀ other ∈ later ++ [move], ¬ other.Informs := by
    intro later hlater other hmem
    rcases List.mem_append.1 hmem with hmem | hmem
    · exact hlater other hmem
    · exact List.mem_singleton.1 hmem ▸ hmove
  cases h with
  | @restarted earlier later split idle last =>
    have hsplit : moves ++ [move] = earlier ++ .init :: (later ++ [move]) := by
      rw [split, List.append_assoc, List.cons_append]
    exact .restarted hsplit idle (hlast last)
  | @refused earlier later message split rest working failing blocked last retried =>
    have hsplit : moves ++ [move] = earlier ++ .handle message :: (later ++ [move]) := by
      rw [split, List.append_assoc, List.cons_append]
    refine .refused hsplit rest working failing blocked (hlast last) ?_
    rcases hblocked with hretries | hsame
    · exact Or.inr ⟨move, List.mem_append_right _ (List.mem_singleton_self _), hretries⟩
    · rw [hsame]
      refine retried.imp_right (fun ⟨other, hmem, hretries⟩ => ?_)
      exact ⟨other, List.mem_append_left _ hmem, hretries⟩

/-- An idle device is awake, or blocked in working, only if the machine has missed its chance. -/
lemma missed_of_mayGoDark {host : Host} {constraint : σ} {policy : Policy}
    (moves : List (MachineMove σ))
    (h : Rig.mayGoDark ((MachineRun.start ⟨{}, host, constraint⟩ policy).afterAll judge
      moves).rig.machine = true) :
    Missed judge (.start ⟨{}, host, constraint⟩ policy) moves := by
  induction moves using List.reverseRecOn with
  | nil => cases h
  | append_singleton moves move ih =>
    have hreached : Reachable judge (fun _ _ => True) (.start ⟨{}, host, constraint⟩ policy)
        ((MachineRun.start ⟨{}, host, constraint⟩ policy).afterAll judge moves) :=
      .afterAll .start (fun _ _ _ => trivial)
    have hafter := afterAll_append judge (.start ⟨{}, host, constraint⟩ policy) moves
      [move]
    by_cases hmove : move.Informs
    · rw [hafter] at h
      cases move with
      | handle message =>
        obtain ⟨hrest, hworking, hfailing, hblocked⟩ := Rig.mayGoDark_handleEvent hmove h
        exact .refused rfl hrest hworking hfailing hblocked (by simp)
          (Or.inl (by rw [hafter]; exact hblocked))
      | init => exact .restarted rfl (Rig.mayGoDark_iff.1 h).2 (by simp)
      | deliver | answer | uninit | refusePhase | host | reload | think => exact hmove.elim
    · rw [hafter] at h
      obtain ⟨hidle, hblocked⟩ := Rig.mayGoDark_moved hreached.sound hmove h
      refine (ih hidle).snoc hmove (hblocked.imp_right (fun hsame => ?_))
      rw [hafter]
      exact hsame

end MachineRun

/-- In a run of a new machine, whatever happens, if the machine is in working and not blocked then
the screen is on, or a charger is connected, or the machine has missed its chance to go dark and was
told nothing of the screen and the charger since: either it was started when the device was idle, or
no timer could be armed when it should have gone dark, and it has tried again after that.

Right after a message about the screen or the charger nothing is missed, unless the machine is
blocked; and if timers can be armed, a message that the screen is off or that the device discharges
makes an idle device go dark. -/
theorem idle_device_awake_only_if_dark_was_missed {σ : Type} (judge : Constraint σ) (host : Host)
    (constraint : σ) (policy : Policy) (moves : List (MachineMove σ)) :
    let start := MachineRun.start ⟨{}, host, constraint⟩ policy
    let run := start.afterAll judge moves
    (run.rig.machine.current = .working → run.rig.machine.blocked = false →
      run.rig.machine.screenOn = true ∨ run.rig.machine.charging = true ∨
        MachineRun.Missed judge start moves) ∧
    ∀ message, Rig.tellsUse message ∨ Rig.tellsRest message →
      let after := run.after judge (.handle message)
      (after.rig.machine.current = .working → after.rig.machine.blocked = false →
        after.rig.machine.screenOn = true ∨ after.rig.machine.charging = true) ∧
      (Rig.tellsRest message → run.rig.machine.current = .working →
        run.rig.host.timers.failing = false →
        after.rig.machine.screenOn = true ∨ after.rig.machine.charging = true ∨
          after.rig.machine.current = .dark) := by
  intro start run
  refine ⟨fun hworking _ => ?_, fun message hinforms => ⟨fun hworking hfree => ?_, ?_⟩⟩
  · by_cases hidle : Rig.mayGoDark run.rig.machine = true
    · exact Or.inr (Or.inr (MachineRun.missed_of_mayGoDark moves hidle))
    · exact (Rig.inUse_of_not_mayGoDark hworking hidle).imp_right Or.inl
  · refine Rig.inUse_of_not_mayGoDark hworking (fun hidle => ?_)
    obtain ⟨-, -, -, hblocked⟩ := Rig.mayGoDark_handleEvent hinforms hidle
    have hstays := hfree.symm.trans hblocked
    cases hstays
  · exact Rig.handleEvent_of_armable

namespace MachineRun

/-- A run under the policy without any configuration. -/
def plain (moves : List (MachineMove Unit)) : MachineRun Unit :=
  (start ⟨{}, {}, ()⟩ (Policy.default {})).afterAll Constraint.device moves

/-- The screen is switched off while timers cannot be armed; and when they can be again, a message
about something else comes. -/
def missedDusk : List (MachineMove Unit) :=
  [.host (.fail .arm true), .handle (.event Action.screenOff), .host (.fail .arm false),
    .handle (.deviceStateChanged 0 false)]

/-- The machine of a device with its screen off is stopped and started again. -/
def restartedDark : List (MachineMove Unit) :=
  [.handle (.event Action.screenOff), .uninit, .init]

end MachineRun

/-- The first machine has tried again, and the second was started when the device was idle; both
have missed their chance, and the first one goes dark with the next message that the screen is
off. -/
theorem idle_device_has_missed_dusk :
    let start := MachineRun.start ⟨{}, {}, ()⟩ (Policy.default {})
    MachineRun.Missed Constraint.device start MachineRun.missedDusk ∧
    MachineRun.Missed Constraint.device start MachineRun.restartedDark ∧
    ((MachineRun.plain MachineRun.missedDusk).after Constraint.device
      (.handle (.event Action.screenOff))).rig.machine.current = .dark := by
  intro start
  obtain ⟨hmissed, hnext⟩ := idle_device_awake_only_if_dark_was_missed Constraint.device {} ()
    (Policy.default {}) MachineRun.missedDusk
  obtain ⟨hrestarted, -⟩ := idle_device_awake_only_if_dark_was_missed Constraint.device {} ()
    (Policy.default {}) MachineRun.restartedDark
  have hrest : Rig.tellsRest (.event Action.screenOff) := Or.inl (by decide +kernel)
  refine ⟨?_, ?_, ?_⟩
  · have hidle := hmissed (by decide +kernel) (by decide +kernel)
    exact (hidle.resolve_left (by decide +kernel)).resolve_left (by decide +kernel)
  · have hidle := hrestarted (by decide +kernel) (by decide +kernel)
    exact (hidle.resolve_left (by decide +kernel)).resolve_left (by decide +kernel)
  · have hdark := (hnext _ (Or.inr hrest)).2 hrest (by decide +kernel) (by decide +kernel)
    exact (hdark.resolve_left (by decide +kernel)).resolve_left (by decide +kernel)

/-- So an idle device can be left awake: both machines are in working and not blocked, although the
screen is off and no charger is connected. -/
theorem idle_device_left_awake :
    ((MachineRun.plain MachineRun.missedDusk).rig.machine.current = .working ∧
      (MachineRun.plain MachineRun.missedDusk).rig.machine.blocked = false ∧
      (MachineRun.plain MachineRun.missedDusk).rig.machine.screenOn = false ∧
      (MachineRun.plain MachineRun.missedDusk).rig.machine.charging = false) ∧
    (MachineRun.plain MachineRun.restartedDark).rig.machine.current = .working ∧
      (MachineRun.plain MachineRun.restartedDark).rig.machine.blocked = false ∧
      (MachineRun.plain MachineRun.restartedDark).rig.machine.screenOn = false ∧
      (MachineRun.plain MachineRun.restartedDark).rig.machine.charging = false := by
  decide +kernel

end DeviceStandby
