import DeviceStandby.Proofs.MachineSteps
import DeviceStandby.Simulation.Session

/-!
# Runs of the state machine

A run of a state machine (`MachineRun`) begins when the machine is started, and goes on by messages,
by timers that are delivered in any order and as often as one likes, by late answers, by stops and
further starts, and by whatever happens beside the machine: time goes by, timers cannot be armed, a
policy is replaced, the constraint changes its mind (`MachineMove`).  The constraint is arbitrary.
Which of the moves may happen is left to those who speak of a run (`MachineRun.Reachable`).

Tasks stay in the queue once they are posted, so the queue is the list of all of them.

Timers can be armed or not for as long as it takes to make a step.  Within one step a timer may be
armed for the next state and then another one for the next phase; that the host refuses only the
second is a move of its own (`Rig.refusePhase`).
-/

namespace DeviceStandby

/-! ## Beside the machine -/

/-- What can happen to the host beside the machine. -/
inductive HostMove where
  | advance (millis : Nat)
  | sense (devices : DeviceStates)
  | setWall (moment : Moment)
  /-- A collaborator begins to fail, or works again. -/
  | fail (failing : Failing) (on : Bool)

namespace Host

/-- The host after something has happened to it. -/
def moved (host : Host) : HostMove → Host
  | .advance millis => { host with timers := (host.timers.advance millis).2 }
  | .sense devices => { host with devices }
  | .setWall wall => { host with wall }
  | .fail failing on => host.setFailing failing on

/-- The timers that fire then. -/
def firing (host : Host) : HostMove → List ArmedTimer
  | .advance millis => (host.timers.advance millis).1
  | _ => []

variable {host : Host}

lemma moved_tasks (move : HostMove) : (host.moved move).queue.tasks = host.queue.tasks := by
  cases move with
  | advance | sense | setWall => rfl
  | fail failing on => cases failing <;> rfl

/-- A queue goes on taking tasks unless it begins to fail. -/
lemma moved_posting {move : HostMove} (h : host.queue.failing = false)
    (hmove : move ≠ .fail .post true) : (host.moved move).queue.failing = false := by
  cases move with
  | advance | sense | setWall => exact h
  | fail failing on =>
    cases failing with
    | post =>
      cases on with
      | true => exact absurd rfl hmove
      | false => rfl
    | arm | acquire | release | load | save | audit => exact h

lemma moved_events (move : HostMove) : (host.moved move).store.events = host.store.events := by
  cases move with
  | advance | sense | setWall => rfl
  | fail failing on => cases failing <;> rfl

lemma moved_calls (move : HostMove) : (host.moved move).wakeLock.calls = host.wakeLock.calls := by
  cases move with
  | advance | sense | setWall => rfl
  | fail failing on => cases failing <;> rfl

lemma mem_moved_pending {move : HostMove} {timer : ArmedTimer}
    (h : timer ∈ (host.moved move).timers.pending) : timer ∈ host.timers.pending := by
  cases move with
  | advance millis => exact (List.mem_filter.1 h).1
  | sense | setWall => exact h
  | fail failing on => cases failing <;> exact h

/-- An armed timer stays armed until it fires. -/
lemma mem_moved_or_firing (move : HostMove) {timer : ArmedTimer}
    (h : timer ∈ host.timers.pending) :
    timer ∈ (host.moved move).timers.pending ∨ timer ∈ host.firing move := by
  cases move with
  | advance millis =>
    by_cases hdue : timer.due ≤ host.timers.now + wrap64 millis
    · exact Or.inr (TimerSource.mem_byDue.2 (List.mem_filter.2 ⟨h, by simpa using hdue⟩))
    · exact Or.inl (List.mem_filter.2 ⟨h, by simpa using hdue⟩)
  | sense | setWall => exact Or.inl h
  | fail failing on => cases failing <;> exact Or.inl h

end Host

/-! ## Moves -/

/-- What can happen in a run of a machine. -/
inductive MachineMove (σ : Type) where
  | handle (message : Message)
  | deliver (id : TimerId) (task : TimerTask)
  | answer (passed : Bool)
  | init
  | uninit
  | refusePhase
  | host (move : HostMove)
  | reload (policy : Policy)
  /-- The constraint has changed by itself. -/
  | think (constraint : σ)

namespace MachineMove

variable {σ : Type}

/-- Whether the move neither starts nor stops the machine. -/
def Continues : MachineMove σ → Prop
  | init | uninit => False
  | _ => True

/-- Whether the move neither starts nor stops the machine, nor replaces the policy. -/
def KeepsPolicy : MachineMove σ → Prop
  | init | uninit | reload _ => False
  | _ => True

end MachineMove

namespace Rig

variable {σ : Type} (judge : Constraint σ) (policy : Policy)

/-- The timer for the next phase, if it was armed in the last step, could not be armed after all. -/
def refusePhase (rig : Rig σ) : Rig σ :=
  match rig.machine.phaseTimer with
  | none => rig
  | some id =>
    releaseLock { rig with
      host := { rig.host with timers := { rig.host.timers with
        pending := rig.host.timers.pending.filter (fun timer =>
          timer.id ≠ id || timer.task ≠ .transitNextPhase rig.machine.current) } }
      machine := { rig.machine with phaseTimer := none } }

/-- The machine and its host after a move. -/
def moved (rig : Rig σ) : MachineMove σ → Rig σ
  | .handle message => rig.handleEvent judge policy message
  | .deliver id task => rig.onTimer judge policy id task
  | .answer passed => rig.endEvaluation policy passed
  | .init => rig.init
  | .uninit => rig.uninit
  | .refusePhase => rig.refusePhase
  | .host move => { rig with host := rig.host.moved move }
  | .reload _ => rig
  | .think constraint => { rig with constraint }

variable {rig : Rig σ}

/-- To refuse a phase timer that has just been armed is the same as not to arm it, but that a number
was given away. -/
lemma refusePhase_armPhaseTimer (hnone : rig.machine.phaseTimer = none)
    (hfresh : ∀ timer ∈ rig.host.timers.pending, timer.id ≠ rig.host.timers.nextId)
    (hworks : rig.host.timers.failing = false) :
    rig.armPhaseTimer.refusePhase = releaseLock { rig with host := { rig.host with
      timers := { rig.host.timers with nextId := rig.host.timers.nextId + 1 } } } := by
  have hpending : (rig.host.timers.pending.filter (fun timer =>
      timer.id ≠ rig.host.timers.nextId || timer.task ≠ .transitNextPhase rig.machine.current)) =
      rig.host.timers.pending := by
    rw [List.filter_eq_self]
    intro timer hmem
    simp [hfresh timer hmem]
  unfold armPhaseTimer refusePhase
  simp only [Host.arm, TimerSource.arm, TimerSource.armAt, hworks, Bool.false_eq_true, if_false,
    List.filter_append, hpending]
  rw [← hnone]
  simp

lemma uninit_machine (rig : Rig σ) : rig.uninit.machine = { rig.machine with
    stateTimer := none, phaseTimer := none, awaited := none, lockHeld := false } := by
  unfold uninit
  rw [releaseLock_machine]
  rfl

lemma refusePhase_machine (rig : Rig σ) : rig.refusePhase.machine = { rig.machine with
    phaseTimer := none
    lockHeld := rig.machine.lockHeld && rig.machine.phaseTimer.isNone } := by
  unfold refusePhase
  split
  · rename_i hnone
    rw [hnone, Option.isNone_none, Bool.and_true, ← hnone]
  · rename_i htimer
    rw [releaseLock_machine, htimer, Option.isNone_some, Bool.and_false]

lemma refusePhase_queue (rig : Rig σ) : rig.refusePhase.host.queue = rig.host.queue := by
  unfold refusePhase
  split
  · rfl
  · rw [releaseLock_queue]

lemma refusePhase_store (rig : Rig σ) : rig.refusePhase.host.store = rig.host.store := by
  unfold refusePhase
  split
  · rfl
  · rw [releaseLock_store]

end Rig

/-! ## Soundness -/

namespace Machine.Sound

variable {m : Machine}

/-- Soundness is no matter of screen and charger. -/
lemma noted (h : m.Sound) (screenOn charging : Bool) :
    ({ m with screenOn, charging } : Machine).Sound where
  phase_le := h.phase_le
  phase_eq_zero := h.phase_eq_zero
  origin := h.origin
  leads := h.leads
  timer := h.timer
  blocked := h.blocked
  working := h.working
  phaseTimer := fun htimer =>
    ⟨⟨(h.phaseTimer htimer).1.sleeps, (h.phaseTimer htimer).1.ahead,
      (h.phaseTimer htimer).1.unblocked⟩, (h.phaseTimer htimer).2⟩
  awaitedState := h.awaitedState
  awaitedPhase := fun next hawaited =>
    ⟨⟨(h.awaitedPhase next hawaited).1.sleeps, (h.awaitedPhase next hawaited).1.ahead,
      (h.awaitedPhase next hawaited).1.unblocked⟩, (h.awaitedPhase next hawaited).2⟩

/-- A machine that is stopped stays sound. -/
lemma stopped (h : m.Sound) : ({ m with
    stateTimer := none, phaseTimer := none, awaited := none, lockHeld := false }
      : Machine).Sound where
  phase_le := h.phase_le
  phase_eq_zero := h.phase_eq_zero
  origin := h.origin
  leads := h.leads
  timer := fun htimer => by cases htimer
  blocked := fun hblocked => ⟨rfl, (h.blocked hblocked).2.1, rfl⟩
  working := h.working
  phaseTimer := fun htimer => by cases htimer
  awaitedState := fun next hawaited => by cases hawaited
  awaitedPhase := fun next hawaited => by cases hawaited

/-- Sleep may go without further phases. -/
lemma unphased (h : m.Sound) (lockHeld : Bool) : ({ m with phaseTimer := none, lockHeld }
    : Machine).Sound where
  phase_le := h.phase_le
  phase_eq_zero := h.phase_eq_zero
  origin := h.origin
  leads := h.leads
  timer := h.timer
  blocked := h.blocked
  working := h.working
  phaseTimer := fun htimer => by cases htimer
  awaitedState := h.awaitedState
  awaitedPhase := fun next hawaited =>
    ⟨⟨(h.awaitedPhase next hawaited).1.sleeps, (h.awaitedPhase next hawaited).1.ahead,
      (h.awaitedPhase next hawaited).1.unblocked⟩, (h.awaitedPhase next hawaited).2⟩

end Machine.Sound

namespace Rig

variable {σ : Type} {judge : Constraint σ} {policy : Policy} {rig : Rig σ}

/-- However the machine was, it is sound once it is started. -/
lemma sound_init (rig : Rig σ) : rig.init.machine.Sound where
  phase_le := Nat.zero_le _
  phase_eq_zero := fun _ => rfl
  origin := fun hcurrent => by cases hcurrent
  leads := fun next hnext => by cases hnext
  timer := fun htimer => by cases htimer
  blocked := fun hblocked => by cases hblocked
  working := fun _ => rfl
  phaseTimer := fun htimer => by cases htimer
  awaitedState := fun next hawaited => by cases hawaited
  awaitedPhase := fun next hawaited => by cases hawaited

/-- Whatever happens, a sound machine stays sound. -/
lemma sound_moved (h : rig.machine.Sound) (move : MachineMove σ) :
    (rig.moved judge policy move).machine.Sound := by
  cases move with
  | handle message => exact (step_handleEvent judge policy message rig).sound (h.noted _ _)
  | deliver id task => exact (step_onTimer judge policy h id task).sound h
  | answer passed => exact (step_endEvaluation policy h passed).sound h
  | init => exact sound_init rig
  | uninit =>
    rw [moved, uninit_machine]
    exact h.stopped
  | refusePhase =>
    rw [moved, refusePhase_machine]
    exact h.unphased _
  | host | reload | think => exact h

end Rig

/-! ## Runs -/

/-- Where a run of a machine is, and what has happened in it. -/
structure MachineRun (σ : Type) where
  rig : Rig σ
  policy : Policy
  /-- The timers that have fired and were not delivered yet. -/
  fired : List ArmedTimer := []
  /-- Whether the machine did not hold the wake lock whenever it was started. -/
  orderly : Bool := true
  /-- What the last message about the screen said. -/
  screen : Option Bool := none
  /-- The changes of the current state, the first one first. -/
  changes : List (State × State) := []

namespace MachineRun

variable {σ : Type}

/-- A run that begins with the start of a machine. -/
def start (rig : Rig σ) (policy : Policy) : MachineRun σ := { rig := rig.init, policy }

/-- What a move tells about the screen. -/
def screenAfter (screen : Option Bool) : MachineMove σ → Option Bool
  | .handle message =>
    if message.reports Action.screenOn then some true
    else if message.reports Action.screenOff then some false else screen
  | _ => screen

/-- The change from one state to another, if there is one. -/
def change (source target : State) : List (State × State) :=
  if source = target then [] else [(source, target)]

/-- The timers that still wait when one was delivered. -/
def waiting (fired : List ArmedTimer) : Delivery → List ArmedTimer
  | none => fired
  | some (id, task) => fired.eraseP (fun timer => timer.id = id && timer.task = task)

/-- The timers that wait to be delivered after a move. -/
def firedAfter (run : MachineRun σ) : MachineMove σ → List ArmedTimer
  | .deliver id task => waiting run.fired (some (id, task))
  | .host move => run.fired ++ run.rig.host.firing move
  | _ => run.fired

/-- Where a run is after a move. -/
def after (judge : Constraint σ) (run : MachineRun σ) (move : MachineMove σ) : MachineRun σ :=
  let rig := run.rig.moved judge run.policy move
  { rig
    policy := match move with
      | .reload policy => policy
      | _ => run.policy
    fired := run.firedAfter move
    orderly := match move with
      | .init => run.orderly && !run.rig.machine.lockHeld
      | _ => run.orderly
    screen := screenAfter run.screen move
    changes := run.changes ++ change run.rig.machine.current rig.machine.current }

/-- Where a run is after some moves. -/
def afterAll (judge : Constraint σ) (run : MachineRun σ) (moves : List (MachineMove σ)) :
    MachineRun σ :=
  moves.foldl (after judge) run

/-- Where a run can get, if all its moves are allowed. -/
inductive Reachable (judge : Constraint σ) (Allows : MachineRun σ → MachineMove σ → Prop)
    (start : MachineRun σ) : MachineRun σ → Prop where
  | start : Reachable judge Allows start start
  | move {run : MachineRun σ} {move : MachineMove σ} (reached : Reachable judge Allows start run)
      (allowed : Allows run move) : Reachable judge Allows start (run.after judge move)

namespace Reachable

variable {judge : Constraint σ} {Allows : MachineRun σ → MachineMove σ → Prop}
  {start run : MachineRun σ}

lemma afterAll {moves : List (MachineMove σ)} (h : Reachable judge Allows start run)
    (hallowed : ∀ run, ∀ move ∈ moves, Allows run move) :
    Reachable judge Allows start (run.afterAll judge moves) := by
  induction moves generalizing run with
  | nil => exact h
  | cons move rest ih =>
    have hmove := hallowed run move (List.mem_cons_self ..)
    exact ih (h.move hmove) (fun run other hmem => hallowed run other (List.mem_cons_of_mem _ hmem))

lemma trans {last : MachineRun σ} (h : Reachable judge Allows start run)
    (hlast : Reachable judge Allows run last) : Reachable judge Allows start last := by
  induction hlast with
  | start => exact h
  | move _ allowed ih => exact ih.move allowed

lemma weaken {Others : MachineRun σ → MachineMove σ → Prop} (h : Reachable judge Allows start run)
    (hothers : ∀ run move, Allows run move → Others run move) :
    Reachable judge Others start run := by
  induction h with
  | start => exact .start
  | move _ allowed ih => exact ih.move (hothers _ _ allowed)

/-- The machine is sound wherever a run gets. -/
lemma sound {rig : Rig σ} {policy : Policy}
    (h : Reachable judge Allows (.start rig policy) run) : run.rig.machine.Sound := by
  induction h with
  | start => exact Rig.sound_init rig
  | move _ _ ih => exact Rig.sound_moved ih _

end Reachable

end MachineRun

end DeviceStandby
