import DeviceStandby.Machine.Step
import DeviceStandby.Proofs.RevokeTimers

/-!
# The state machine leaves exemptions alone

The state machine arms and cancels timers of its own.  As long as the numbers that it remembers are
those of its own timers (`Rig.Tidy`), none of its steps touches a timer that revokes exemptions, the
clock or the stored table, and the numbers stay its own.  `Rig.Quiet` says so of a step, and every
step of the machine is quiet.
-/

namespace DeviceStandby.Rig

variable {σ : Type}

/-- The timers that the machine remembers do not revoke exemptions. -/
structure Tidy (rig : Rig σ) : Prop where
  numbered : rig.host.timers.Numbered
  state : ∀ id, rig.machine.stateTimer = some id → rig.host.timers.Foreign id
  phase : ∀ id, rig.machine.phaseTimer = some id → rig.host.timers.Foreign id

/-- A step from a tidy machine is quiet, and leaves the machine tidy. -/
def Quiet (before after : Rig σ) : Prop :=
  before.Tidy → after.Tidy ∧ Host.Quiet before.host after.host

namespace Quiet

variable {rig next last : Rig σ}

lemma refl (rig : Rig σ) : Quiet rig rig := fun h => ⟨h, .refl rig.host⟩

lemma trans (first : Quiet rig next) (second : Quiet next last) : Quiet rig last := by
  intro htidy
  obtain ⟨hnext, hfirst⟩ := first htidy
  obtain ⟨hlast, hsecond⟩ := second hnext
  exact ⟨hlast, hfirst.trans hsecond⟩

/-- A quiet step of the host is one of the machine if the machine remembers no other timers. -/
lemma of_host (hhost : rig.Tidy → Host.Quiet rig.host next.host)
    (hstate : ∀ id, next.machine.stateTimer = some id → rig.machine.stateTimer = some id)
    (hphase : ∀ id, next.machine.phaseTimer = some id → rig.machine.phaseTimer = some id) :
    Quiet rig next := by
  intro htidy
  have hquiet := hhost htidy
  exact ⟨⟨hquiet.numbered htidy.numbered,
    fun id hid => hquiet.foreign (htidy.state id (hstate id hid)),
    fun id hid => hquiet.foreign (htidy.phase id (hphase id hid))⟩, hquiet⟩

lemma of_same (htimers : next.host.timers = rig.host.timers)
    (hdocuments : next.host.store.documents = rig.host.store.documents)
    (hstate : next.machine.stateTimer = rig.machine.stateTimer)
    (hphase : next.machine.phaseTimer = rig.machine.phaseTimer) : Quiet rig next :=
  of_host (fun _ => .of_same htimers hdocuments) (fun _ hid => hstate ▸ hid)
    (fun _ hid => hphase ▸ hid)

end Quiet

/-! ## The wake lock and the timers -/

variable (rig : Rig σ)

lemma quiet_acquireLock : Quiet rig rig.acquireLock := by
  unfold acquireLock
  split <;> exact .of_same rfl rfl rfl rfl

lemma quiet_releaseLock : Quiet rig rig.releaseLock := by
  unfold releaseLock
  split <;> exact .of_same rfl rfl rfl rfl

lemma quiet_cancelTimers : Quiet rig rig.cancelTimers := by
  refine .of_host (fun htidy => ?_) (fun id hid => by cases hid) (fun id hid => by cases hid)
  have hstate : Host.Quiet rig.host (rig.host.cancel? rig.machine.stateTimer) :=
    .cancel? htidy.state
  exact hstate.trans (.cancel? (fun id hid => hstate.foreign (htidy.phase id hid)))

/-- The machine may arm a timer of its own and remember it as the one for the next phase. -/
lemma quiet_armPhaseTimer : Quiet rig rig.armPhaseTimer := by
  unfold armPhaseTimer
  have htask : (TimerTask.transitNextPhase rig.machine.current).isRevoke = false := rfl
  have hquiet := Host.Quiet.arm rig.host 0 htask
  rcases harm : rig.host.arm 0 (.transitNextPhase rig.machine.current) with ⟨_ | id, host⟩
  · rw [harm] at hquiet
    have hstep : Quiet rig { rig with host } :=
      .of_host (fun _ => hquiet) (fun _ hid => hid) (fun _ hid => hid)
    exact hstep.trans (quiet_releaseLock _)
  · intro htidy
    have hforeign := Host.Quiet.foreign_arm htask htidy.numbered (congrArg Prod.fst harm)
    rw [harm] at hquiet hforeign
    refine ⟨⟨hquiet.numbered htidy.numbered, ?_, ?_⟩, hquiet⟩
    · exact fun other hid => hquiet.foreign (htidy.state other hid)
    · exact fun other hid => Option.some.inj hid ▸ hforeign

/-! ## Entering states and phases -/

lemma quiet_arrive (previous : State) : Quiet rig (arrive previous rig) := by
  unfold arrive
  dsimp only
  split
  · exact quiet_releaseLock rig
  · split
    · refine .trans ?_ (quiet_armPhaseTimer _)
      exact .of_same (by simp) (by simp) rfl rfl
    · refine .trans ?_ (quiet_releaseLock _)
      exact .of_same (by simp) (by simp) rfl rfl

lemma quiet_enter (policy : Policy) (next : State) : Quiet rig (rig.enter policy next).2 := by
  unfold enter
  refine (quiet_cancelTimers rig).trans ?_
  dsimp only
  generalize rig.machine.planEntry policy rig.host.now next = plan
  generalize rig.cancelTimers = resting
  cases plan.timer with
  | none =>
    refine .trans ?_ (quiet_arrive _ _)
    exact .of_host (fun _ => .refl _) (fun id hid => by cases hid) (fun _ hid => hid)
  | some timer =>
    obtain ⟨delay, target⟩ := timer
    have htask : (TimerTask.transitNextState next).isRevoke = false := rfl
    have hquiet := Host.Quiet.arm resting.host delay htask
    dsimp only
    rcases harm : resting.host.arm delay (.transitNextState next) with ⟨_ | id, host⟩
    · rw [harm] at hquiet
      exact .of_host (fun _ => hquiet) (fun _ hid => hid) (fun _ hid => hid)
    · refine .trans ?_ (quiet_arrive _ _)
      intro htidy
      have hforeign := Host.Quiet.foreign_arm htask htidy.numbered (congrArg Prod.fst harm)
      rw [harm] at hquiet hforeign
      refine ⟨⟨hquiet.numbered htidy.numbered, ?_, ?_⟩, hquiet⟩
      · exact fun other hid => Option.some.inj hid ▸ hforeign
      · exact fun other hid => hquiet.foreign (htidy.phase other hid)

lemma quiet_block : Quiet rig rig.block := by
  unfold block
  refine .trans ?_ (quiet_releaseLock _)
  exact .of_same rfl rfl rfl rfl

lemma quiet_enterOrBlock (policy : Policy) (next : State) :
    Quiet rig (rig.enterOrBlock policy next) := by
  unfold enterOrBlock
  have henter := quiet_enter rig policy next
  rcases h : rig.enter policy next with ⟨_ | _, entered⟩
  · rw [h] at henter
    exact henter.trans (quiet_block _)
  · rw [h] at henter
    exact henter

lemma quiet_enterPhase (next : Nat) : Quiet rig (rig.enterPhase next) := by
  unfold enterPhase
  dsimp only
  split
  · refine .trans ?_ (quiet_releaseLock _)
    exact .of_same (by simp) (by simp) rfl rfl
  · refine .trans ?_ (quiet_armPhaseTimer _)
    exact .of_same (by simp) (by simp) rfl rfl

/-! ## Transitions, with a constraint that is asked -/

variable (judge : Constraint σ) (policy : Policy)

lemma quiet_ask (question : Question) : Quiet rig (rig.ask judge question).2 :=
  .of_same rfl rfl rfl rfl

lemma quiet_transitTo (next : State) : Quiet rig (rig.transitTo judge policy next) := by
  unfold transitTo
  split
  · have hask := quiet_ask rig judge (stateQuestion rig.machine next)
    rcases h : rig.ask judge (stateQuestion rig.machine next) with ⟨_ | _ | _, asked⟩
    · rw [h] at hask
      exact hask.trans (quiet_enterOrBlock _ _ _)
    · rw [h] at hask
      exact hask.trans (quiet_block _)
    · rw [h] at hask
      exact hask.trans (.of_same rfl rfl rfl rfl)
  · exact quiet_enterOrBlock _ _ _

lemma quiet_transit (next : State) : Quiet rig (rig.transit judge policy next) := by
  unfold transit
  refine (quiet_acquireLock rig).trans ?_
  dsimp only
  refine .trans ?_ (quiet_transitTo _ _ _ _)
  split
  · exact .of_same rfl rfl rfl rfl
  · exact .refl _

lemma quiet_advancePhase : Quiet rig (rig.advancePhase judge) := by
  unfold advancePhase
  have hask := quiet_ask rig judge (phaseQuestion rig.machine)
  dsimp only
  rcases h : rig.ask judge (phaseQuestion rig.machine) with ⟨_ | _ | _, asked⟩
  · rw [h] at hask
    exact hask.trans (quiet_enterPhase _ _)
  · rw [h] at hask
    exact hask.trans (quiet_releaseLock _)
  · rw [h] at hask
    exact hask.trans (.of_same rfl rfl rfl rfl)

lemma quiet_wakeUp : Quiet rig (rig.wakeUp judge policy) := by
  unfold wakeUp
  split
  · exact .refl rig
  · refine .trans ?_ (quiet_enterOrBlock _ _ _)
    exact .of_same rfl rfl rfl rfl

lemma quiet_retryIfBlocked : Quiet rig (rig.retryIfBlocked policy) := by
  unfold retryIfBlocked
  split
  · exact quiet_enter _ _ _
  · exact .refl rig

lemma quiet_goDarkOrRetry : Quiet rig (rig.goDarkOrRetry policy) := by
  unfold goDarkOrRetry
  split
  · exact quiet_enterOrBlock _ _ _
  · exact quiet_retryIfBlocked _ _

/-! ## The steps of the machine -/

/-- No message makes the machine touch what exemptions rest on. -/
lemma quiet_handleEvent (message : Message) :
    Quiet rig (rig.handleEvent judge policy message) := by
  unfold handleEvent
  split
  · split
    · refine .trans ?_ (quiet_wakeUp _ _ _)
      exact .of_same rfl rfl rfl rfl
    · split
      · refine .trans ?_ (quiet_wakeUp _ _ _)
        exact .of_same rfl rfl rfl rfl
      · split
        · refine .trans ?_ (quiet_goDarkOrRetry _ _)
          exact .of_same rfl rfl rfl rfl
        · split
          · refine .trans ?_ (quiet_goDarkOrRetry _ _)
            exact .of_same rfl rfl rfl rfl
          · exact quiet_retryIfBlocked _ _
  · exact quiet_retryIfBlocked _ _
  · exact .refl rig

/-- No timer makes the machine touch what exemptions rest on. -/
lemma quiet_onTimer (id : TimerId) (task : TimerTask) :
    Quiet rig (rig.onTimer judge policy id task) := by
  unfold onTimer
  split
  · split
    · have hforget : Quiet rig { rig with
          machine := { rig.machine with stateTimer := none, nextState := none } } :=
        .of_host (fun _ => .refl _) (fun id hid => by cases hid) (fun _ hid => hid)
      dsimp only
      split
      · exact hforget.trans (quiet_transit _ _ _ _)
      · exact hforget
    · exact .refl rig
  · split
    · refine .trans ?_ (quiet_advancePhase _ _)
      exact .of_host (fun _ => .refl _) (fun _ hid => hid) (fun id hid => by cases hid)
    · exact .refl rig
  · exact .refl rig
  · exact .refl rig

lemma quiet_endEvaluation (passed : Bool) : Quiet rig (rig.endEvaluation policy passed) := by
  unfold endEvaluation
  have hforget : Quiet rig { rig with machine := { rig.machine with awaited := none } } :=
    .of_same rfl rfl rfl rfl
  dsimp only
  split
  · exact hforget
  · split
    · exact hforget.trans (quiet_enterOrBlock _ _ _)
    · exact hforget.trans (quiet_block _)
  · split
    · exact hforget.trans (quiet_enterPhase _ _)
    · exact hforget.trans (quiet_releaseLock _)

lemma quiet_init : Quiet rig rig.init := by
  unfold init
  refine (quiet_cancelTimers rig).trans ?_
  exact .of_same rfl rfl rfl rfl

lemma quiet_uninit : Quiet rig rig.uninit := by
  unfold uninit
  refine (quiet_cancelTimers rig).trans (.trans ?_ (quiet_releaseLock _))
  exact .of_same rfl rfl rfl rfl

end DeviceStandby.Rig
