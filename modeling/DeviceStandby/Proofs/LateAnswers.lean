import DeviceStandby.Proofs.MachineRuns

/-!
# Late answers

A constraint may leave an evaluation open and answer it later, and meanwhile the machine may have
given the evaluation up: a timer has led elsewhere, or the device is in use.  An answer says whether
the change may be made, but not which evaluation it belongs to.

Here the constraint numbers the evaluations that it leaves open (`Constraint.numbered`), and a run
keeps the number of the evaluation that the machine waits for, and those of the evaluations that
were cancelled (`Hearing`).  Each answer belongs to an evaluation that is owed one, and comes once,
at any time and in any order.
-/

namespace DeviceStandby

/-! ## Numbered evaluations -/

/-- What a constraint remembers, and the evaluations that it has left open. -/
structure Docket (σ : Type) where
  mind : σ
  /-- How many evaluations were left open so far; their numbers are those below it. -/
  begun : Nat := 0
  /-- The evaluations whose answer has not come yet. -/
  owed : List Nat := []

/-- The constraint, with a number for each evaluation that it leaves open. -/
def Constraint.numbered {σ : Type} (judge : Constraint σ) : Constraint (Docket σ) where
  start := fun question devices docket =>
    match judge.start question devices docket.mind with
    | (.pending, mind) => (.pending, ⟨mind, docket.begun + 1, docket.begun :: docket.owed⟩)
    | (verdict, mind) => (verdict, { docket with mind })
  stop := fun docket => { docket with mind := judge.stop docket.mind }
  isEvaluating := fun docket => judge.isEvaluating docket.mind

/-- The same move in front of a constraint that remembers more. -/
def MachineMove.map {σ τ : Type} (f : σ → τ) : MachineMove σ → MachineMove τ
  | .handle message => .handle message
  | .deliver id task => .deliver id task
  | .answer passed => .answer passed
  | .init => .init
  | .uninit => .uninit
  | .refusePhase => .refusePhase
  | .host move => .host move
  | .reload policy => .reload policy
  | .think constraint => .think (f constraint)

/-! ## Steps -/

namespace Rig

section

variable {σ : Type} (rig : Rig σ)

lemma releaseLock_constraint : rig.releaseLock.constraint = rig.constraint := by
  unfold releaseLock
  split <;> rfl

lemma acquireLock_constraint : rig.acquireLock.constraint = rig.constraint := by
  unfold acquireLock
  split <;> rfl

lemma armPhaseTimer_constraint : rig.armPhaseTimer.constraint = rig.constraint := by
  unfold armPhaseTimer
  split
  · rfl
  · exact releaseLock_constraint _

lemma arrive_constraint (previous : State) :
    (rig.arrive previous).constraint = rig.constraint := by
  unfold arrive
  dsimp only
  split
  · exact releaseLock_constraint rig
  · split
    · exact armPhaseTimer_constraint _
    · exact releaseLock_constraint _

lemma enter_constraint (policy : Policy) (next : State) :
    (rig.enter policy next).2.constraint = rig.constraint := by
  unfold enter
  dsimp only
  split
  · exact arrive_constraint _ _
  · split
    · rfl
    · exact arrive_constraint _ _

lemma enterOrBlock_constraint (policy : Policy) (next : State) :
    (rig.enterOrBlock policy next).constraint = rig.constraint := by
  unfold enterOrBlock
  rcases henter : rig.enter policy next with ⟨_ | _, after⟩
  · exact (releaseLock_constraint _).trans (by rw [← rig.enter_constraint policy next, henter])
  · rw [← rig.enter_constraint policy next, henter]

lemma enterPhase_constraint (next : Nat) : (rig.enterPhase next).constraint = rig.constraint := by
  unfold enterPhase
  dsimp only
  split
  · exact releaseLock_constraint _
  · exact armPhaseTimer_constraint _

/-- Whether or not a state can be entered, nothing is awaited after that. -/
lemma enterOrBlock_awaited (policy : Policy) (next : State) :
    (rig.enterOrBlock policy next).machine.awaited = none := by
  rcases enterOrBlock_cases policy next rig with ⟨-, -, hrefused⟩ | hentered
  · rw [hrefused, block_machine]
  · exact hentered.awaited

/-- An answer is taken for whatever is awaited, and then nothing is awaited. -/
lemma endEvaluation_awaited (policy : Policy) (passed : Bool) :
    (rig.endEvaluation policy passed).machine.awaited = none := by
  unfold endEvaluation
  dsimp only
  split
  · rfl
  · split
    · exact enterOrBlock_awaited _ policy _
    · rw [block_machine]
  · split
    · rw [(settled_enterPhase _ _).machine]
      rfl
    · rw [releaseLock_machine]

/-- If nothing is awaited, an answer changes nothing. -/
lemma endEvaluation_of_none (policy : Policy) (passed : Bool)
    (h : rig.machine.awaited = none) : rig.endEvaluation policy passed = rig := by
  have hsame : ({ rig with machine := { rig.machine with awaited := none } } : Rig σ) = rig := by
    rw [← h]
  unfold endEvaluation
  dsimp only
  rw [h]
  exact hsame

lemma endEvaluation_constraint (policy : Policy) (passed : Bool) :
    (rig.endEvaluation policy passed).constraint = rig.constraint := by
  unfold endEvaluation
  dsimp only
  split
  · rfl
  · split
    · exact enterOrBlock_constraint _ policy _
    · exact releaseLock_constraint _
  · split
    · exact enterPhase_constraint _ _
    · exact releaseLock_constraint _

end

variable {σ : Type} {rig after before : Rig (Docket σ)} {judge : Constraint σ} {policy : Policy}

/-- What has become of the evaluations from one rig to the other. -/
inductive Hears (rig after : Rig (Docket σ)) : Prop where
  /-- None was left open, and the machine waits for what it waited for, or for nothing. -/
  | quiet (begun : after.constraint.begun = rig.constraint.begun)
      (owed : after.constraint.owed = rig.constraint.owed)
      (awaited : after.machine.awaited = none ∨ after.machine.awaited = rig.machine.awaited)
  /-- One was left open, and the machine waits for it. -/
  | opened (begun : after.constraint.begun = rig.constraint.begun + 1)
      (owed : after.constraint.owed = rig.constraint.begun :: rig.constraint.owed)
      (awaited : after.machine.awaited.isSome = true)

namespace Hears

lemma of_same (hconstraint : after.constraint = rig.constraint)
    (hawaited : after.machine.awaited = none ∨ after.machine.awaited = rig.machine.awaited) :
    rig.Hears after :=
  .quiet (by rw [hconstraint]) (by rw [hconstraint]) hawaited

lemma refl (rig : Rig (Docket σ)) : rig.Hears rig := .of_same rfl (Or.inr rfl)

/-- What went before does not count if it has left the evaluations alone. -/
lemma of_eq (h : before.Hears after) (hbegun : before.constraint.begun = rig.constraint.begun)
    (howed : before.constraint.owed = rig.constraint.owed)
    (hawaited : before.machine.awaited = none ∨ before.machine.awaited = rig.machine.awaited) :
    rig.Hears after := by
  cases h with
  | quiet begun owed awaited =>
    refine .quiet (begun.trans hbegun) (owed.trans howed) ?_
    rcases awaited with hnone | hsame
    · exact Or.inl hnone
    · rw [hsame]
      exact hawaited
  | opened begun owed awaited =>
    rw [hbegun] at begun owed
    rw [howed] at owed
    exact .opened begun owed awaited

end Hears

lemma hears_enterOrBlock (policy : Policy) (next : State) (rig : Rig (Docket σ)) :
    rig.Hears (rig.enterOrBlock policy next) :=
  .of_same (rig.enterOrBlock_constraint policy next) (Or.inl (rig.enterOrBlock_awaited policy next))

lemma hears_block (rig : Rig (Docket σ)) : rig.Hears rig.block := by
  refine .of_same (releaseLock_constraint _) (Or.inl ?_)
  rw [block_machine]

lemma hears_releaseLock (rig : Rig (Docket σ)) : rig.Hears rig.releaseLock := by
  refine .of_same (releaseLock_constraint _) (Or.inr ?_)
  rw [releaseLock_machine]

lemma hears_enterPhase (next : Nat) (rig : Rig (Docket σ)) : rig.Hears (rig.enterPhase next) := by
  refine .of_same (enterPhase_constraint _ _) (Or.inr ?_)
  rw [(settled_enterPhase _ _).machine]
  rfl

lemma hears_retryIfBlocked (rig : Rig (Docket σ)) : rig.Hears (rig.retryIfBlocked policy) := by
  unfold retryIfBlocked
  split
  · refine .of_same (enter_constraint _ _ _) ?_
    rcases retry_cases policy rig with ⟨-, hrefused⟩ | hentered
    · rw [hrefused]
      exact Or.inr rfl
    · exact Or.inl hentered.awaited
  · exact .refl rig

lemma hears_goDarkOrRetry (rig : Rig (Docket σ)) : rig.Hears (rig.goDarkOrRetry policy) := by
  unfold goDarkOrRetry
  split
  · exact hears_enterOrBlock policy .dark rig
  · exact hears_retryIfBlocked rig

lemma hears_wakeUp (rig : Rig (Docket σ)) : rig.Hears (rig.wakeUp judge.numbered policy) := by
  unfold wakeUp
  split
  · exact .refl rig
  · refine (hears_enterOrBlock policy .working _).of_eq ?_ ?_ (Or.inl rfl)
    all_goals
      dsimp only
      split <;> rfl

/-- No message makes the machine ask anything. -/
lemma hears_handleEvent (message : Message) (rig : Rig (Docket σ)) :
    rig.Hears (rig.handleEvent judge.numbered policy message) := by
  unfold handleEvent
  split
  · split
    · exact (hears_wakeUp _).of_eq rfl rfl (Or.inr rfl)
    · split
      · exact (hears_wakeUp _).of_eq rfl rfl (Or.inr rfl)
      · split
        · exact (hears_goDarkOrRetry _).of_eq rfl rfl (Or.inr rfl)
        · split
          · exact (hears_goDarkOrRetry _).of_eq rfl rfl (Or.inr rfl)
          · exact hears_retryIfBlocked rig
  · exact hears_retryIfBlocked rig
  · exact .refl rig

/-- A question is either answered at once, or leaves one more evaluation open. -/
lemma ask_cases (judge : Constraint σ) (question : Question) (rig : Rig (Docket σ)) :
    (∃ verdict mind, verdict ≠ .pending ∧ rig.ask judge.numbered question =
      (verdict, { rig with constraint := { rig.constraint with mind } })) ∨
    ∃ mind, rig.ask judge.numbered question =
      (.pending, { rig with constraint :=
        ⟨mind, rig.constraint.begun + 1, rig.constraint.begun :: rig.constraint.owed⟩ }) := by
  unfold ask Constraint.numbered
  dsimp only
  rcases judge.start question rig.host.devices rig.constraint.mind with ⟨verdict, mind⟩
  cases verdict with
  | pass => exact Or.inl ⟨.pass, mind, by simp, rfl⟩
  | veto reason => exact Or.inl ⟨.veto reason, mind, by simp, rfl⟩
  | pending => exact Or.inr ⟨mind, rfl⟩

lemma hears_transitTo (next : State) (rig : Rig (Docket σ)) :
    rig.Hears (rig.transitTo judge.numbered policy next) := by
  unfold transitTo
  split
  · rcases rig.ask_cases judge (stateQuestion rig.machine next) with
      ⟨verdict, mind, hverdict, hasked⟩ | ⟨mind, hasked⟩
    · rw [hasked]
      cases verdict with
      | pass => exact (hears_enterOrBlock policy next _).of_eq rfl rfl (Or.inr rfl)
      | veto reason => exact (hears_block _).of_eq rfl rfl (Or.inr rfl)
      | pending => exact absurd rfl hverdict
    · rw [hasked]
      exact .opened rfl rfl rfl
  · exact hears_enterOrBlock policy next rig

lemma hears_transit (next : State) (rig : Rig (Docket σ)) :
    rig.Hears (rig.transit judge.numbered policy next) := by
  have hconstraint := rig.acquireLock_constraint
  unfold transit
  dsimp only
  split
  · refine (hears_transitTo next _).of_eq ?_ ?_ (Or.inl rfl)
    all_goals
      dsimp only [Constraint.numbered]
      rw [hconstraint]
  · refine (hears_transitTo next _).of_eq ?_ ?_ (Or.inr ?_)
    · rw [hconstraint]
    · rw [hconstraint]
    · rw [acquireLock_machine]

lemma hears_advancePhase (rig : Rig (Docket σ)) :
    rig.Hears (rig.advancePhase judge.numbered) := by
  unfold advancePhase
  dsimp only
  rcases rig.ask_cases judge (phaseQuestion rig.machine) with
    ⟨verdict, mind, hverdict, hasked⟩ | ⟨mind, hasked⟩
  · rw [hasked]
    cases verdict with
    | pass => exact (hears_enterPhase _ _).of_eq rfl rfl (Or.inr rfl)
    | veto reason => exact (hears_releaseLock _).of_eq rfl rfl (Or.inr rfl)
    | pending => exact absurd rfl hverdict
  · rw [hasked]
    exact .opened rfl rfl rfl

lemma hears_onTimer (id : TimerId) (task : TimerTask) (rig : Rig (Docket σ)) :
    rig.Hears (rig.onTimer judge.numbered policy id task) := by
  unfold onTimer
  cases task with
  | transitNextState source =>
    dsimp only
    split
    · split
      · exact (hears_transit _ _).of_eq rfl rfl (Or.inr rfl)
      · exact .of_same rfl (Or.inr rfl)
    · exact .refl rig
  | transitNextPhase state =>
    dsimp only
    split
    · exact (hears_advancePhase _).of_eq rfl rfl (Or.inr rfl)
    · exact .refl rig
  | revokeExpired uid name mask => exact .refl rig
  | dayNightSwitch => exact .refl rig

/-- Whatever happens but an answer, at most one evaluation is left open, and if so the machine waits
for it. -/
lemma hears_moved (rig : Rig (Docket σ)) {move : MachineMove σ}
    (hother : ∀ passed, move ≠ .answer passed) :
    rig.Hears (rig.moved judge.numbered policy
      (move.map fun mind => { rig.constraint with mind })) := by
  cases move with
  | handle message => exact hears_handleEvent message rig
  | deliver id task => exact hears_onTimer id task rig
  | answer passed => exact absurd rfl (hother passed)
  | init => exact .of_same rfl (Or.inl rfl)
  | uninit =>
    refine .of_same (releaseLock_constraint _) (Or.inl ?_)
    show rig.uninit.machine.awaited = none
    rw [uninit_machine]
  | refusePhase =>
    refine .of_same ?_ (Or.inr ?_)
    · show rig.refusePhase.constraint = rig.constraint
      unfold refusePhase
      split
      · rfl
      · exact releaseLock_constraint _
    · show rig.refusePhase.machine.awaited = rig.machine.awaited
      rw [refusePhase_machine]
  | host move => exact .of_same rfl (Or.inr rfl)
  | reload policy => exact .refl rig
  | think mind => exact .quiet rfl rfl (Or.inr rfl)

end Rig

/-! ## Runs -/

/-- Where a run is in which the evaluations are told apart. -/
structure Hearing (σ : Type) where
  rig : Rig (Docket σ)
  policy : Policy
  /-- The evaluation that the machine waits for. -/
  awaiting : Option Nat := none
  /-- The evaluations that were given up before they were answered. -/
  cancelled : List Nat := []

namespace Hearing

variable {σ : Type}

/-- A run that begins with the start of a machine. -/
def start (rig : Rig σ) (policy : Policy) : Hearing σ where
  rig := ⟨rig.init.machine, rig.init.host, { mind := rig.constraint }⟩
  policy

/-- The evaluation that the machine waits for when it has come as far as `rig`: if it waits, for the
one that was left open on the way, and else for the same as before. -/
def awaitingAt (hearing : Hearing σ) (rig : Rig (Docket σ)) : Option Nat :=
  if rig.machine.awaited = none then none
  else if rig.constraint.begun = hearing.rig.constraint.begun then hearing.awaiting
  else some hearing.rig.constraint.begun

/-- Where a run is after a move that is no answer.  If the machine does not wait any more for what
it waited for, that is cancelled. -/
def after (judge : Constraint σ) (hearing : Hearing σ) (move : MachineMove σ) : Hearing σ :=
  let rig := hearing.rig.moved judge.numbered hearing.policy
    (move.map fun mind => { hearing.rig.constraint with mind })
  { rig
    policy := match move with
      | .reload policy => policy
      | _ => hearing.policy
    awaiting := hearing.awaitingAt rig
    cancelled := hearing.cancelled ++
      if hearing.awaitingAt rig = hearing.awaiting then [] else hearing.awaiting.toList }

/-- Where a run is after an evaluation was answered. -/
def answered (hearing : Hearing σ) (evaluation : Nat) (passed : Bool) : Hearing σ :=
  let rig := hearing.rig.endEvaluation hearing.policy passed
  let docket := { rig.constraint with owed := rig.constraint.owed.filter (· ≠ evaluation) }
  { hearing with rig := { rig with constraint := docket }, awaiting := hearing.awaitingAt rig }

/-- Where a run can get, if all its moves are allowed; each answer is one that is still owed. -/
inductive Reachable (judge : Constraint σ) (Allows : Hearing σ → MachineMove σ → Prop)
    (start : Hearing σ) : Hearing σ → Prop where
  | start : Reachable judge Allows start start
  | move {hearing : Hearing σ} {move : MachineMove σ}
      (reached : Reachable judge Allows start hearing)
      (other : ∀ passed, move ≠ .answer passed) (allowed : Allows hearing move) :
      Reachable judge Allows start (hearing.after judge move)
  | answer {hearing : Hearing σ} {evaluation : Nat} (passed : Bool)
      (reached : Reachable judge Allows start hearing)
      (owed : evaluation ∈ hearing.rig.constraint.owed) :
      Reachable judge Allows start (hearing.answered evaluation passed)

section

variable {hearing : Hearing σ} {judge : Constraint σ}

/-- What the machine waited for is cancelled when it does not wait for that any more. -/
lemma mem_cancelled_after {move : MachineMove σ} {n : Nat} :
    n ∈ (hearing.after judge move).cancelled ↔ n ∈ hearing.cancelled ∨
      hearing.awaiting = some n ∧ (hearing.after judge move).awaiting ≠ some n := by
  unfold after
  dsimp only
  rw [List.mem_append]
  refine or_congr_right ?_
  split
  · rename_i hsame
    rw [hsame]
    simp
  · rename_i hchanged
    rw [Option.mem_toList]
    exact ⟨fun hn => ⟨hn, fun hlater => hchanged (hlater.trans hn.symm)⟩, fun hn => hn.1⟩

/-- What the machine waits for stays the same, or is given up, or is the evaluation that was just
left open. -/
lemma after_cases (hearing : Hearing σ) (judge : Constraint σ) {move : MachineMove σ}
    (hother : ∀ passed, move ≠ .answer passed) :
    ((hearing.after judge move).rig.constraint.begun = hearing.rig.constraint.begun ∧
      (hearing.after judge move).rig.constraint.owed = hearing.rig.constraint.owed ∧
      ((hearing.after judge move).awaiting = none ∧
          (hearing.after judge move).rig.machine.awaited = none ∨
        (hearing.after judge move).awaiting = hearing.awaiting ∧
          (hearing.after judge move).rig.machine.awaited = hearing.rig.machine.awaited)) ∨
    (hearing.after judge move).rig.constraint.begun = hearing.rig.constraint.begun + 1 ∧
      (hearing.after judge move).rig.constraint.owed =
        hearing.rig.constraint.begun :: hearing.rig.constraint.owed ∧
      (hearing.after judge move).awaiting = some hearing.rig.constraint.begun ∧
      (hearing.after judge move).rig.machine.awaited.isSome = true := by
  have hawaiting : (hearing.after judge move).awaiting =
    hearing.awaitingAt (hearing.after judge move).rig := rfl
  have hhears : hearing.rig.Hears (hearing.after judge move).rig := hearing.rig.hears_moved hother
  rw [hawaiting, awaitingAt]
  cases hhears with
  | quiet begun owed awaited =>
    refine Or.inl ⟨begun, owed, ?_⟩
    by_cases hnone : (hearing.after judge move).rig.machine.awaited = none
    · exact Or.inl ⟨if_pos hnone, hnone⟩
    · rw [if_neg hnone, if_pos begun]
      exact Or.inr ⟨rfl, awaited.resolve_left hnone⟩
  | opened begun owed awaited =>
    rw [if_neg (Option.isSome_iff_ne_none.1 awaited), if_neg (by omega)]
    exact Or.inr ⟨begun, owed, rfl, awaited⟩

lemma awaiting_answered (hearing : Hearing σ) (n : Nat) (passed : Bool) :
    (hearing.answered n passed).awaiting = none :=
  if_pos (Rig.endEvaluation_awaited _ _ _)

lemma docket_answered (hearing : Hearing σ) (n : Nat) (passed : Bool) :
    (hearing.answered n passed).rig.constraint = { hearing.rig.constraint with
      owed := hearing.rig.constraint.owed.filter (· ≠ n) } := by
  unfold answered
  dsimp only
  rw [Rig.endEvaluation_constraint]

end

/-- The numbers are in order: what the machine waits for is the last evaluation that was left open,
and that was neither answered nor cancelled. -/
structure Orderly (hearing : Hearing σ) : Prop where
  owed : ∀ n ∈ hearing.rig.constraint.owed, n < hearing.rig.constraint.begun
  cancelled : ∀ n ∈ hearing.cancelled, n < hearing.rig.constraint.begun
  waits : hearing.awaiting.isSome = hearing.rig.machine.awaited.isSome
  last : ∀ n, hearing.awaiting = some n → n + 1 = hearing.rig.constraint.begun ∧
    n ∈ hearing.rig.constraint.owed ∧ n ∉ hearing.cancelled

namespace Orderly

variable {hearing : Hearing σ} {judge : Constraint σ}

lemma start (rig : Rig σ) (policy : Policy) : (Hearing.start rig policy).Orderly where
  owed := fun n hmem => by cases hmem
  cancelled := fun n hmem => by cases hmem
  waits := rfl
  last := fun n hawaiting => by cases hawaiting

/-- Whatever was cancelled by a move had been begun before it. -/
lemma cancelled_after (h : hearing.Orderly) {move : MachineMove σ} {n : Nat}
    (hmem : n ∈ (hearing.after judge move).cancelled) : n < hearing.rig.constraint.begun := by
  rcases mem_cancelled_after.1 hmem with hold | ⟨hawaiting, -⟩
  · exact h.cancelled n hold
  · exact h.owed n (h.last n hawaiting).2.1

lemma after (h : hearing.Orderly) {move : MachineMove σ}
    (hother : ∀ passed, move ≠ .answer passed) : (hearing.after judge move).Orderly := by
  have hcancelled : ∀ n ∈ (hearing.after judge move).cancelled,
      n < hearing.rig.constraint.begun := fun n hmem => h.cancelled_after hmem
  rcases hearing.after_cases judge hother with
    ⟨hbegun, howed, ⟨hawaiting, hawaited⟩ | ⟨hawaiting, hawaited⟩⟩ |
      ⟨hbegun, howed, hawaiting, hawaited⟩
  -- The machine waits for nothing.
  · refine ⟨?_, ?_, ?_, ?_⟩
    · rw [hbegun, howed]
      exact h.owed
    · rw [hbegun]
      exact hcancelled
    · rw [hawaiting, hawaited]
      rfl
    · intro n hn
      rw [hawaiting] at hn
      cases hn
  -- It goes on waiting for the same.
  · refine ⟨?_, ?_, ?_, ?_⟩
    · rw [hbegun, howed]
      exact h.owed
    · rw [hbegun]
      exact hcancelled
    · rw [hawaiting, hawaited]
      exact h.waits
    · intro n hn
      rw [hawaiting] at hn
      obtain ⟨hlast, hmem, hfresh⟩ := h.last n hn
      rw [hbegun, howed]
      refine ⟨hlast, hmem, fun hgone => ?_⟩
      rcases mem_cancelled_after.1 hgone with hold | ⟨-, hchanged⟩
      · exact hfresh hold
      · exact hchanged (hawaiting.trans hn)
  -- It waits for the evaluation that was just left open.
  · refine ⟨?_, ?_, ?_, ?_⟩
    · rw [hbegun, howed]
      intro n hn
      rcases List.mem_cons.1 hn with rfl | hn
      · exact Nat.lt_succ_self _
      · exact Nat.lt_succ_of_lt (h.owed n hn)
    · rw [hbegun]
      exact fun n hn => Nat.lt_succ_of_lt (hcancelled n hn)
    · rw [hawaiting, hawaited]
      rfl
    · intro n hn
      obtain rfl := Option.some.inj (hawaiting.symm.trans hn)
      rw [hbegun, howed]
      exact ⟨rfl, List.mem_cons_self .., fun hgone => Nat.lt_irrefl _ (hcancelled _ hgone)⟩

lemma answered (h : hearing.Orderly) (n : Nat) (passed : Bool) :
    (hearing.answered n passed).Orderly := by
  refine ⟨?_, ?_, ?_, ?_⟩
  · rw [docket_answered]
    exact fun m hm => h.owed m ((List.mem_filter.1 hm).1)
  · rw [docket_answered]
    exact h.cancelled
  · rw [awaiting_answered]
    exact (congrArg Option.isSome (Rig.endEvaluation_awaited _ _ _)).symm
  · intro m hm
    rw [awaiting_answered] at hm
    cases hm

lemma awaiting_eq_none_iff (h : hearing.Orderly) :
    hearing.awaiting = none ↔ hearing.rig.machine.awaited = none := by
  rw [← Option.isNone_iff_eq_none, ← Option.isNone_iff_eq_none, ← Option.not_isSome, h.waits,
    Option.not_isSome]

/-- An answer for which the machine does not wait changes nothing. -/
lemma unheard (h : hearing.Orderly) (hnone : hearing.awaiting = none) (passed : Bool) :
    hearing.rig.endEvaluation hearing.policy passed = hearing.rig :=
  hearing.rig.endEvaluation_of_none hearing.policy passed (h.awaiting_eq_none_iff.1 hnone)

/-- What the machine waits for was begun after all that was cancelled. -/
lemma superseded (h : hearing.Orderly) {n m : Nat} (hcancelled : n ∈ hearing.cancelled)
    (hm : hearing.awaiting = some m) : n < m ∧ m ∈ hearing.rig.constraint.owed := by
  obtain ⟨hlast, howed, hfresh⟩ := h.last m hm
  have hless := h.cancelled n hcancelled
  have hne : n ≠ m := fun heq => hfresh (heq ▸ hcancelled)
  exact ⟨by omega, howed⟩

end Orderly

namespace Reachable

variable {judge : Constraint σ} {Allows : Hearing σ → MachineMove σ → Prop} {rig : Rig σ}
  {policy : Policy} {hearing : Hearing σ}

lemma orderly (h : Reachable judge Allows (.start rig policy) hearing) : hearing.Orderly := by
  induction h with
  | start => exact .start rig policy
  | move _ other _ ih => exact ih.after other
  | answer passed _ _ ih => exact ih.answered _ passed

lemma afterAll {start : Hearing σ} {moves : List (MachineMove σ)}
    (h : Reachable judge Allows start hearing)
    (hother : ∀ move ∈ moves, ∀ passed, move ≠ .answer passed)
    (hallowed : ∀ hearing, ∀ move ∈ moves, Allows hearing move) :
    Reachable judge Allows start (moves.foldl (Hearing.after judge) hearing) := by
  induction moves generalizing hearing with
  | nil => exact h
  | cons move rest ih =>
    have hmove := h.move (hother move (List.mem_cons_self ..))
      (hallowed hearing move (List.mem_cons_self ..))
    exact ih hmove (fun other hmem => hother other (List.mem_cons_of_mem _ hmem))
      (fun hearing other hmem => hallowed hearing other (List.mem_cons_of_mem _ hmem))

end Reachable

/-- Nothing is asked that stays open while an answer is owed. -/
def Patient (judge : Constraint σ) (hearing : Hearing σ) (move : MachineMove σ) : Prop :=
  (hearing.after judge move).rig.constraint.begun ≠ hearing.rig.constraint.begun →
    hearing.rig.constraint.owed = []

/-- In patience no two answers are owed at once. -/
lemma Reachable.eq_of_mem_owed {judge : Constraint σ} {rig : Rig σ} {policy : Policy}
    {hearing : Hearing σ} (h : Reachable judge (Patient judge) (.start rig policy) hearing) :
    ∀ n ∈ hearing.rig.constraint.owed, ∀ m ∈ hearing.rig.constraint.owed, n = m := by
  induction h with
  | start => exact fun n hn => by cases hn
  | @move before move reached other allowed ih =>
    rcases before.after_cases judge other with ⟨-, howed, -⟩ | ⟨hbegun, howed, -⟩
    · rw [howed]
      exact ih
    · rw [howed, allowed (by omega)]
      intro n hn m hm
      rw [List.mem_singleton.1 hn, List.mem_singleton.1 hm]
  | @answer before answered passed reached owed ih =>
    rw [docket_answered]
    exact fun n hn m hm => ih n (List.mem_filter.1 hn).1 m (List.mem_filter.1 hm).1

/-- If nothing is asked that stays open while an answer is owed, late answers change nothing. -/
theorem Reachable.late_answer_ignored {judge : Constraint σ} {rig : Rig σ} {policy : Policy}
    {hearing : Hearing σ} (h : Reachable judge (Patient judge) (.start rig policy) hearing)
    {n : Nat} (hcancelled : n ∈ hearing.cancelled) (howed : n ∈ hearing.rig.constraint.owed)
    (passed : Bool) : hearing.rig.endEvaluation hearing.policy passed = hearing.rig := by
  refine h.orderly.unheard ?_ passed
  rcases hawaiting : hearing.awaiting with _ | m
  · rfl
  · obtain ⟨hless, hmem⟩ := h.orderly.superseded hcancelled hawaiting
    exact absurd (h.eq_of_mem_owed n howed m hmem) (Nat.ne_of_lt hless)

end Hearing

/-- In a run of a machine, whatever happens, the answer to an evaluation that was cancelled changes
nothing exactly if the machine waits for no answer by then.  Otherwise it waits for an evaluation
that was begun later and is still owed its own answer, and it takes the late answer for that. -/
theorem late_answer_ignored_iff {σ : Type} {judge : Constraint σ}
    {Allows : Hearing σ → MachineMove σ → Prop} {rig : Rig σ} {policy : Policy}
    {hearing : Hearing σ} (h : Hearing.Reachable judge Allows (.start rig policy) hearing)
    {n : Nat} (hcancelled : n ∈ hearing.cancelled) (passed : Bool) :
    (hearing.rig.endEvaluation hearing.policy passed = hearing.rig ↔ hearing.awaiting = none) ∧
    ∀ m, hearing.awaiting = some m → n < m ∧ m ∈ hearing.rig.constraint.owed ∧
      (hearing.answered n passed).awaiting = none ∧
      (hearing.answered n passed).rig.machine = (hearing.answered m passed).rig.machine ∧
      (hearing.answered n passed).rig.host = (hearing.answered m passed).rig.host := by
  refine ⟨⟨fun hsame => ?_, fun hnone => h.orderly.unheard hnone passed⟩, fun m hm => ?_⟩
  · rw [h.orderly.awaiting_eq_none_iff, ← hsame]
    exact Rig.endEvaluation_awaited _ _ _
  · obtain ⟨hless, howed⟩ := h.orderly.superseded hcancelled hm
    exact ⟨hless, howed, hearing.awaiting_answered n passed, rfl, rfl⟩

/-- The constraint does not know whether the device may nap, and before it does the screen is
switched on again. -/
def Hearing.atDawn : Hearing Probe :=
  [.handle (.event Action.screenOff), .host (.advance 300000),
    .deliver 1 (.transitNextState .dark), .handle (.event Action.screenOn)].foldl
    (after Probe.constraint) (start ⟨{}, {}, { script := some .pending }⟩ (Policy.default {}))

/-- The screen is switched off once more, and the constraint is asked once more. -/
def Hearing.atNightfall : Hearing Probe :=
  [.handle (.event Action.screenOff), .host (.advance 300000),
    .deliver 2 (.transitNextState .dark)].foldl (after Probe.constraint) atDawn

lemma Hearing.reachable_atDawn : Reachable Probe.constraint (fun _ _ => True)
    (.start ⟨{}, {}, { script := some .pending }⟩ (Policy.default {})) atDawn :=
  .afterAll .start (by simp) (by simp)

/-- At dawn the answer would come too late to change anything. -/
theorem late_answer_at_dawn :
    0 ∈ Hearing.atDawn.cancelled ∧ Hearing.atDawn.rig.constraint.owed = [0] ∧
      Hearing.atDawn.rig.endEvaluation (Policy.default {}) true = Hearing.atDawn.rig := by
  have hcancelled : 0 ∈ Hearing.atDawn.cancelled := by decide +kernel
  refine ⟨hcancelled, by decide +kernel, ?_⟩
  exact (late_answer_ignored_iff Hearing.reachable_atDawn hcancelled true).1.2 (by decide +kernel)

/-- At nightfall it is taken for the answer to the second question: the device naps, and the answer
to that will count for nothing. -/
theorem late_answer_counts_at_nightfall :
    Hearing.Reachable Probe.constraint (fun _ _ => True)
      (.start ⟨{}, {}, { script := some .pending }⟩ (Policy.default {})) Hearing.atNightfall ∧
    0 ∈ Hearing.atNightfall.cancelled ∧ Hearing.atNightfall.rig.constraint.owed = [1, 0] ∧
    Hearing.atNightfall.awaiting = some 1 ∧
    Hearing.atNightfall.rig.machine.current = .dark ∧
    Hearing.atNightfall.rig.machine.lockHeld = true ∧
    (Hearing.atNightfall.answered 0 true).rig.machine.current = .nap ∧
    (Hearing.atNightfall.answered 0 true).rig.machine.stateTimer = some 3 ∧
    (Hearing.atNightfall.answered 0 true).rig.machine.lockHeld = false ∧
    (Hearing.atNightfall.answered 0 true).awaiting = none ∧
    (Hearing.atNightfall.answered 0 true).rig.constraint.owed = [1] :=
  ⟨.afterAll Hearing.reachable_atDawn (by simp) (by simp), by decide +kernel, by decide +kernel,
    by decide +kernel, by decide +kernel, by decide +kernel, by decide +kernel, by decide +kernel,
    by decide +kernel, by decide +kernel, by decide +kernel⟩

end DeviceStandby
