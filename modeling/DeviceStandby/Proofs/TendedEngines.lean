import DeviceStandby.Proofs.EngineTimers

/-!
# Engines keep track of their timers

An engine remembers the timers of its machine and the one for the next change between day and night.
`Engine.Tended` says that what it remembers is what is armed: each piece of work that an engine does
keeps it, and gives no number away again (`Engine.Tends`).

Between two pieces of work more holds (`Engine.Regular`).  An engine that is not ready remembers no
timers at all, holds no wake lock and has no active strategies (`Engine.Dormant`); and an engine that
is ready remembers a timer for the next change between day and night, as long as timers can be armed.
Every move keeps this, if timers are delivered only when they are not armed any more
(`EngineRun.Fires`).
-/

namespace DeviceStandby

namespace Engine

/-! ## What is remembered and what is armed -/

/-- What the engine remembers is what is armed.  The wake lock is accounted for if it can always be
taken; the timers in `fired` are on their way to the engine. -/
structure Tended (lockable : Prop) (fired : List ArmedTimer) (e : Engine) : Prop where
  tidy : e.Tidy
  sound : e.machine.Sound
  ordered : e.host.timers.Ordered
  given : ∀ timer ∈ fired, timer.id < e.host.timers.nextId
  owns : e.rig.Owns
  balanced : lockable → e.rig.Balanced
  apart : ∀ id, e.dayNightTimer = some id → e.machine.Ignores id
  sole : ∀ timer ∈ e.host.timers.pending, timer.task = .dayNightSwitch →
    e.dayNightTimer = some timer.id
  awaited : ∀ id, e.dayNightTimer = some id →
    ∃ timer ∈ e.host.timers.pending ++ fired, timer.id = id ∧ timer.task = .dayNightSwitch

/-- No number is given away again: a timer for the change between day and night that is remembered
was remembered before, or has a new number. -/
structure Renews (e next : Engine) : Prop where
  numbers : e.host.timers.nextId ≤ next.host.timers.nextId
  recorded : ∀ id, next.dayNightTimer = some id →
    e.dayNightTimer = some id ∨ e.host.timers.nextId ≤ id

/-- The engine that comes of a piece of work is tended still. -/
structure Tends (lockable : Prop) (fired : List ArmedTimer) (e next : Engine) : Prop
    extends e.Renews next where
  tended : next.Tended lockable fired
  failing : next.host.timers.failing = e.host.timers.failing

variable {armable lockable : Prop} {fired : List ArmedTimer} {e next last : Engine}

namespace Renews

lemma of_same (hnumbers : next.host.timers.nextId = e.host.timers.nextId)
    (hdayNight : next.dayNightTimer = e.dayNightTimer) : e.Renews next where
  numbers := Nat.le_of_eq hnumbers.symm
  recorded := fun _ hid => Or.inl (hdayNight ▸ hid)

lemma trans (first : e.Renews next) (second : next.Renews last) : e.Renews last where
  numbers := Nat.le_trans first.numbers second.numbers
  recorded := by
    intro id hid
    rcases second.recorded id hid with hold | hnew
    · exact first.recorded id hold
    · exact Or.inr (Nat.le_trans first.numbers hnew)

/-- A number that was given and is not remembered will not be remembered again. -/
lemma dayNight_ne (h : e.Renews next) {id : TimerId} (hgiven : id < e.host.timers.nextId)
    (hgone : e.dayNightTimer ≠ some id) : next.dayNightTimer ≠ some id := by
  intro hid
  rcases h.recorded id hid with hold | hnew
  · exact hgone hold
  · exact absurd hgiven (Nat.not_lt.2 hnew)

end Renews

/-- One piece of work after another. -/
lemma Tends.andThen (first : Tends lockable fired e next)
    (second : next.Tended lockable fired → Tends lockable fired next last) :
    Tends lockable fired e last :=
  have hlast := second first.tended
  ⟨first.toRenews.trans hlast.toRenews, hlast.tended, hlast.failing.trans first.failing⟩

/-! ## Pieces of work -/

/-- Timers that revoke exemptions take no number that the engine remembers. -/
lemma Tidy.of_extends (h : e.Tidy) (hordered : e.host.timers.Ordered)
    (hhost : e.host.Extends next.host) (hmachine : next.machine = e.machine)
    (hdayNight : next.dayNightTimer = e.dayNightTimer) : next.Tidy := by
  have hforeign : ∀ id, e.host.timers.Foreign id → next.host.timers.Foreign id := by
    intro id hid
    refine ⟨Nat.lt_of_lt_of_le hid.1 hhost.numbers, fun timer hmem => ?_⟩
    obtain ⟨hpending, htask⟩ := List.mem_filter.1 hmem
    rcases hhost.mem_or hpending with hold | ⟨-, hnew⟩
    · exact hid.2 timer (List.mem_filter.2 ⟨hold, htask⟩)
    · exact Nat.ne_of_gt (Nat.lt_of_lt_of_le hid.1 hnew)
  refine ⟨fun timer hmem => ?_, fun id hid => ?_, fun id hid => ?_, fun id hid => ?_⟩
  · exact (hhost.ordered hordered).counted timer (TimerSource.mem_pending_of_mem_revokes hmem)
  · exact hforeign id (h.state id (hmachine ▸ hid))
  · exact hforeign id (h.phase id (hmachine ▸ hid))
  · exact hforeign id (h.dayNight id (hdayNight ▸ hid))

namespace Tended

lemma refl (h : e.Tended lockable fired) : Tends lockable fired e e := ⟨.of_same rfl rfl, h, rfl⟩

/-- Work on the exemption table. -/
lemma of_extends (h : e.Tended lockable fired) (hhost : e.host.Extends next.host)
    (hmachine : next.machine = e.machine) (hdayNight : next.dayNightTimer = e.dayNightTimer) :
    Tends lockable fired e next := by
  refine ⟨⟨hhost.numbers, fun id hid => Or.inl (hdayNight ▸ hid)⟩,
    ⟨h.tidy.of_extends h.ordered hhost hmachine hdayNight, ?_, hhost.ordered h.ordered, ?_, ?_, ?_,
      ?_, ?_, ?_⟩, hhost.failing⟩
  · rw [hmachine]
    exact h.sound
  · exact fun timer hmem => Nat.lt_of_lt_of_le (h.given timer hmem) hhost.numbers
  · refine h.owns.others hmachine (fun timer hmem => (hhost.mem_or hmem).imp_right ?_)
    exact fun ⟨hrevoke, _⟩ => TimerTask.ofMachine_of_isRevoke hrevoke
  · exact fun hlockable =>
      (h.balanced hlockable).congr hhost.wakeLock (congrArg Machine.lockHeld hmachine)
  · rw [hmachine, hdayNight]
    exact h.apart
  · intro timer hmem htask
    rw [hdayNight]
    rcases hhost.mem_or hmem with hold | ⟨hrevoke, -⟩
    · exact h.sole timer hold htask
    · simp [htask, TimerTask.isRevoke] at hrevoke
  · intro id hid
    rw [hdayNight] at hid
    obtain ⟨timer, hmem, htimer⟩ := h.awaited id hid
    refine ⟨timer, ?_, htimer⟩
    exact List.mem_append.2 ((List.mem_append.1 hmem).imp_left hhost.mem)

/-- What is neither the machine nor the host does not matter. -/
lemma frame (h : e.Tended lockable fired) (hhost : next.host = e.host)
    (hmachine : next.machine = e.machine) (hdayNight : next.dayNightTimer = e.dayNightTimer) :
    Tends lockable fired e next :=
  h.of_extends (by rw [hhost]; exact .refl _) hmachine hdayNight

lemma aside (h : e.Tended lockable fired) (haside : e.Aside next) :
    Tends lockable fired e next := by
  obtain ⟨a, rfl, hhost⟩ := haside
  exact h.of_extends hhost rfl rfl

/-- A move of the machine, if no timer is delivered that is still armed. -/
lemma moved (h : e.Tended lockable fired) {move : MachineMove Probe} (hown : move.IsOwn)
    (hfires : ∀ id task, move = .deliver id task →
      ∀ timer ∈ e.host.timers.pending, timer.id ≠ id) :
    Tends lockable fired e (e.moved move) := by
  have hquiet : Quiet e (e.moved move) := quiet_drive e (fun rig => rig.quiet_moved hown)
  obtain ⟨htidy, hhost⟩ := hquiet.tidy h.tidy
  have hrenews : e.rig.Renews (e.rig.moved e.plugin.constraint e.policy move) :=
    Rig.renews_moved h.sound move
  obtain ⟨more, hworked⟩ : ∃ more, Host.Worked (fun timer => timer.task.ofMachine = true) e.rig.host
      more (e.rig.moved e.plugin.constraint e.policy move).host := Rig.worked_moved h.sound hown
  have hworks : move ≠ .host (.fail .acquire true) := by
    rintro rfl
    exact hown
  refine ⟨⟨hrenews.numbers, fun _ hid => Or.inl hid⟩, ⟨htidy, Rig.sound_moved h.sound move,
    hrenews.ordered h.ordered, ?_, h.owns.moved h.sound hfires,
    fun hlockable => (h.balanced hlockable).moved h.sound hworks, ?_, ?_, ?_⟩, hhost.arming⟩
  · exact fun timer hmem => Nat.lt_of_lt_of_le (h.given timer hmem) hrenews.numbers
  · intro id hid
    have hgiven := (h.tidy.dayNight id hid).1
    exact ⟨hrenews.state_ne hgiven (h.apart id hid).1, hrenews.phase_ne hgiven (h.apart id hid).2⟩
  · intro timer hmem htask
    rcases hworked.pending timer hmem with hold | ⟨hmine, -⟩
    · exact h.sole timer hold htask
    · simp [htask, TimerTask.ofMachine] at hmine
  · intro id hid
    obtain ⟨timer, hmem, rfl, htask⟩ := h.awaited id hid
    refine ⟨timer, List.mem_append.2 ((List.mem_append.1 hmem).imp_left (fun hpending => ?_)),
      rfl, htask⟩
    exact Rig.kept_moved h.sound hown (h.apart timer.id hid) hpending

/-- The timer for the change between day and night is armed anew. -/
lemma armDayNight (h : e.Tended lockable fired) : Tends lockable fired e e.armDayNight := by
  obtain ⟨htidy, hquiet⟩ := (quiet_armDayNight e).tidy h.tidy
  have hbeside := beside_armDayNight e
  refine ⟨⟨hquiet.numbers, ?_⟩, ⟨htidy, h.sound, (h.ordered.cancel? _).arm _ _, ?_, ?_, ?_, ?_, ?_,
    ?_⟩, hquiet.arming⟩
  · intro id hid
    obtain ⟨-, hnone, -⟩ | ⟨-, hsome, -⟩ := e.armDayNight_cases
    · rw [hnone] at hid
      cases hid
    · rw [hsome] at hid
      exact Or.inr (Nat.le_of_eq (Option.some.inj hid))
  · exact fun timer hmem => Nat.lt_of_lt_of_le (h.given timer hmem) hquiet.numbers
  · refine h.owns.others rfl (fun timer hmem => ?_)
    exact (hbeside.host.pending timer hmem).imp_right (fun hturns => by rw [hturns.1.1]; rfl)
  · refine fun hlockable => (h.balanced hlockable).congr ?_ rfl
    simp [rig, Engine.armDayNight]
  all_goals
    obtain ⟨-, hnone, hpending⟩ | ⟨-, hsome, hpending⟩ := e.armDayNight_cases
  · rw [hnone]
    exact fun id hid => by cases hid
  · rw [hsome]
    rintro _ ⟨⟩
    refine ⟨fun hid => ?_, fun hid => ?_⟩
    · exact absurd (h.tidy.state _ hid).1 (Nat.lt_irrefl _)
    · exact absurd (h.tidy.phase _ hid).1 (Nat.lt_irrefl _)
  · intro timer hmem htask
    rw [hpending, Host.mem_cancel?_pending] at hmem
    exact absurd (h.sole timer hmem.1 htask) hmem.2
  · intro timer hmem htask
    rw [hpending, List.mem_append, Host.mem_cancel?_pending, List.mem_singleton] at hmem
    rcases hmem with ⟨hold, hne⟩ | rfl
    · exact absurd (h.sole timer hold htask) hne
    · exact hsome
  · rw [hnone]
    exact fun id hid => by cases hid
  · rw [hsome, hpending]
    rintro _ ⟨⟩
    exact ⟨_, List.mem_append_left _ (List.mem_append_right _ (List.mem_singleton_self _)), rfl, rfl⟩

/-- The timer for the change between day and night may be forgotten if it is not armed any more. -/
lemma forget (h : e.Tended lockable fired)
    (hgone : ∀ timer ∈ e.host.timers.pending, e.dayNightTimer ≠ some timer.id) :
    Tends lockable fired e { e with dayNightTimer := none } := by
  refine ⟨⟨Nat.le_refl _, nofun⟩, ⟨⟨h.tidy.numbered, h.tidy.state, h.tidy.phase, nofun⟩, h.sound,
    h.ordered, h.given, h.owns, h.balanced, nofun, ?_, nofun⟩, rfl⟩
  exact fun timer hmem htask => absurd (h.sole timer hmem htask) (hgone timer hmem)

/-- The timer for the change between day and night is cancelled. -/
lemma cancelDayNight (h : e.Tended lockable fired) : Tends lockable fired e
    { e with host := e.host.cancel? e.dayNightTimer, dayNightTimer := none, ready := false } := by
  obtain ⟨htidy, hquiet⟩ := (quiet_cancelDayNight e).tidy h.tidy
  have hold : ∀ timer ∈ (e.host.cancel? e.dayNightTimer).timers.pending,
      timer ∈ e.host.timers.pending ∧ e.dayNightTimer ≠ some timer.id :=
    fun timer hmem => e.host.mem_cancel?_pending.1 hmem
  refine ⟨⟨hquiet.numbers, nofun⟩, ⟨htidy, h.sound, h.ordered.cancel? _, ?_, ?_, ?_, nofun, ?_,
    nofun⟩, hquiet.arming⟩
  · exact fun timer hmem => Nat.lt_of_lt_of_le (h.given timer hmem) hquiet.numbers
  · exact h.owns.others rfl (fun timer hmem => Or.inl (hold timer hmem).1)
  · exact fun hlockable => (h.balanced hlockable).congr (e.host.cancel?_wakeLock _) rfl
  · exact fun timer hmem htask => absurd (h.sole timer (hold timer hmem).1 htask) (hold timer hmem).2

end Tended

/-! ## Between two pieces of work -/

/-- What an engine remembers that is not ready: no timer, no wake lock and no strategies. -/
structure Dormant (e : Engine) : Prop where
  dayNight : e.dayNightTimer = none
  state : e.machine.stateTimer = none
  phase : e.machine.phaseTimer = none
  lock : e.machine.lockHeld = false
  strategies : e.strategies = []

lemma Dormant.of_same (h : e.Dormant) (hmachine : next.machine = e.machine)
    (hdayNight : next.dayNightTimer = e.dayNightTimer) (hstrategies : next.strategies = []) :
    next.Dormant where
  dayNight := hdayNight.trans h.dayNight
  state := (congrArg Machine.stateTimer hmachine).trans h.state
  phase := (congrArg Machine.phaseTimer hmachine).trans h.phase
  lock := (congrArg Machine.lockHeld hmachine).trans h.lock
  strategies := hstrategies

/-- An engine between two pieces of work.  If timers can always be armed, there is one for the next
change between day and night as long as the engine is ready. -/
structure Regular (armable lockable : Prop) (fired : List ArmedTimer) (e : Engine) : Prop
    extends e.Tended lockable fired where
  arming : armable → e.host.timers.failing = false
  rests : e.ready = false → e.Dormant
  waits : armable → e.ready = true → e.dayNightTimer.isSome = true

lemma armDayNight_isSome (h : e.host.timers.failing = false) :
    e.armDayNight.dayNightTimer.isSome = true := by
  obtain ⟨hfails, -⟩ | ⟨-, hsome, -⟩ := e.armDayNight_cases
  · rw [h] at hfails
    cases hfails
  · rw [hsome]
    rfl

/-- Stopping an engine that is ready: the roles are stopped, then the machine, and then the timer for
the change between day and night is cancelled. -/
lemma uninit_eq (h : e.ready = true) : ∃ listener probe,
    let stopped := ({ e with listener, probe, strategies := [] } : Engine).moved .uninit
    e.uninit = ({ stopped with
      host := stopped.host.cancel? e.dayNightTimer
      dayNightTimer := none
      ready := false } : Engine).audit .serviceStopped := by
  obtain ⟨first, hfirst⟩ := note_eq { e with listener := e.listener.stop } .listenerStop
  obtain ⟨second, hsecond⟩ := note_eq
    { e with listener := e.listener.stop.uninit, probe := first }
    (.listenerUninit e.listener.stop.uninit.seen)
  obtain ⟨third, hthird⟩ := note_eq
    { e with listener := e.listener.stop.uninit, probe := second } .constraintUninit
  obtain ⟨fourth, hfourth⟩ := note_eq
    { e with listener := e.listener.stop.uninit, probe := third } .strategyUninit
  obtain ⟨probe, hprobe⟩ := note_eq
    { e with listener := e.listener.stop.uninit, probe := fourth, strategies := [] } .stateUninit
  refine ⟨e.listener.stop.uninit, probe, ?_⟩
  unfold uninit
  rw [if_neg (by rw [h]; exact Bool.false_ne_true)]
  dsimp only
  rw [hfirst]
  dsimp only
  rw [hsecond, hthird, hfourth]
  dsimp only
  rw [hprobe]
  rfl

namespace Regular

/-- A piece of work makes a regular engine regular again, if it leaves behind what it should. -/
lemma of_tends (h : e.Regular armable lockable fired) (htends : Tends lockable fired e next)
    (hrests : next.ready = false → next.Dormant)
    (hwaits : armable → next.ready = true → next.dayNightTimer.isSome = true) :
    next.Regular armable lockable fired where
  toTended := htends.tended
  arming := fun harmable => htends.failing.trans (h.arming harmable)
  rests := hrests
  waits := hwaits

/-- Work beside the machine. -/
lemma beside (h : e.Regular armable lockable fired) {a : Admission}
    (hhost : e.host.Extends a.host) :
    (e.withAdmission a).Regular armable lockable fired ∧ e.Renews (e.withAdmission a) := by
  have htends : Tends lockable fired e (e.withAdmission a) := h.toTended.of_extends hhost rfl rfl
  refine ⟨h.of_tends htends (fun hready => ?_) h.waits, htends.toRenews⟩
  exact (h.rests hready).of_same rfl rfl (h.rests hready).strategies

/-- Handling a task. -/
theorem handle (h : e.Regular armable lockable fired) (task : Task)
    (hfires : ∀ id kind, task = .timer id kind →
      ∀ timer ∈ e.host.timers.pending, timer.id ≠ id) :
    (e.handle task).Regular armable lockable fired ∧ e.Renews (e.handle task) := by
  cases hready : e.ready with
  | false =>
    have hnone : e.dayNightTimer = none := (h.rests hready).dayNight
    rw [handle_of_not_ready hready]
    split
    · exact h.beside (Admission.extends_revoke _ _ _ _ _)
    · rw [if_neg (by rw [hnone]; exact fun hid => by cases hid)]
      exact ⟨h, .of_same rfl rfl⟩
    · exact ⟨h, .of_same rfl rfl⟩
  | true =>
    have hown : task.move.IsOwn := by cases task <;> trivial
    obtain ⟨htends, hstill, hwaits⟩ : Tends lockable fired e (e.handle task) ∧
        (e.handle task).ready = true ∧
        (armable → (e.handle task).dayNightTimer.isSome = true) := by
      refine handle_induct (P := fun next => Tends lockable fired e next ∧ next.ready = true ∧
        (armable → next.dayNightTimer.isSome = true)) hready task ?_ ?_ ?_ ?_ ?_ ?_
      · exact ⟨h.toTended.refl, hready, fun harmable => h.waits harmable hready⟩
      · intro probe
        have hlogged : Tends lockable fired e { e with probe } := h.toTended.frame rfl rfl rfl
        refine ⟨hlogged.andThen (·.moved hown (fun id kind hmove => ?_)), hready,
          fun harmable => h.waits harmable hready⟩
        cases task <;> cases hmove
        exact hfires _ _ rfl
      · exact fun next _ _ _ ⟨ht, hnext, hsome⟩ =>
          ⟨ht.andThen (·.frame rfl rfl rfl), hnext, hsome⟩
      · exact fun next _ _ _ _ ⟨ht, hnext, hsome⟩ =>
          ⟨ht.andThen (·.of_extends (Admission.extends_revoke _ _ _ _ _) rfl rfl), hnext,
            hsome⟩
      · exact fun next ⟨ht, hnext, _⟩ => ⟨ht.andThen (·.armDayNight), hnext,
          fun harmable => armDayNight_isSome (ht.failing.trans (h.arming harmable))⟩
      · rintro id listener probe strategies rfl hid
        have hgone : ∀ timer ∈ e.host.timers.pending, e.dayNightTimer ≠ some timer.id := by
          intro timer hmem hrecorded
          rw [hid] at hrecorded
          exact hfires id _ rfl timer hmem (Option.some.inj hrecorded).symm
        have hforgot := h.toTended.forget hgone
        have htold : Tends lockable fired e
            { e with dayNightTimer := none, listener, probe, strategies } :=
          hforgot.andThen (·.frame rfl rfl rfl)
        exact ⟨htold.andThen (·.armDayNight), hready,
          fun harmable => armDayNight_isSome (h.arming harmable)⟩
    refine ⟨h.of_tends htends (fun hnot => ?_) (fun harmable _ => hwaits harmable), htends.toRenews⟩
    rw [hstill] at hnot
    cases hnot

/-- Another policy. -/
lemma reload (h : e.Regular armable lockable fired) (policy : Policy) :
    (e.reload policy).Regular armable lockable fired ∧ e.Renews (e.reload policy) := by
  have hreplaced : ({ e with policy } : Engine).Regular armable lockable fired ∧
      e.Renews { e with policy } := h.beside (a := { e.toAdmission with policy }) (.refl e.host)
  unfold Engine.reload
  dsimp only
  split
  · rename_i hready
    have harmed := hreplaced.1.toTended.armDayNight
    refine ⟨hreplaced.1.of_tends harmed (fun hnot => ?_) (fun harmable _ => ?_),
      hreplaced.2.trans harmed.toRenews⟩
    · exact absurd (hready.symm.trans hnot) (by decide)
    · exact armDayNight_isSome (h.arming harmable)
  · exact hreplaced

/-- Stopping the engine. -/
lemma uninit (h : e.Regular armable lockable fired) :
    e.uninit.Regular armable lockable fired ∧ e.Renews e.uninit ∧ e.uninit.ready = false := by
  cases hready : e.ready with
  | false =>
    have hsame : e.uninit = e := by
      unfold Engine.uninit
      exact if_pos (by rw [hready]; rfl)
    rw [hsame]
    exact ⟨h, .of_same rfl rfl, hready⟩
  | true =>
    obtain ⟨listener, probe, huninit⟩ := uninit_eq hready
    have hroles : Tends lockable fired e { e with listener, probe, strategies := [] } :=
      h.toTended.frame rfl rfl rfl
    have hstopped : Tends lockable fired e
        (({ e with listener, probe, strategies := [] } : Engine).moved .uninit) :=
      hroles.andThen (·.moved trivial (fun id task hmove => by cases hmove))
    have hcancelled := hstopped.andThen (·.cancelDayNight)
    have hrecorded : Tends lockable fired e e.uninit := by
      rw [huninit]
      exact hcancelled.andThen (·.of_extends (.of_same rfl rfl) rfl rfl)
    have hmachine : e.uninit.machine = { e.machine with
        stateTimer := none, phaseTimer := none, awaited := none, lockHeld := false } := by
      rw [huninit]
      exact Rig.uninit_machine _
    rw [huninit] at hrecorded hmachine ⊢
    refine ⟨h.of_tends hrecorded (fun _ => ⟨rfl, ?_, ?_, ?_, rfl⟩) (fun _ hnot => by cases hnot),
      hrecorded.toRenews, rfl⟩
    · exact congrArg Machine.stateTimer hmachine
    · exact congrArg Machine.phaseTimer hmachine
    · exact congrArg Machine.lockHeld hmachine

/-- Starting the engine.  The engine is not ready until everything is up; that it is ready then makes
no difference to what arming the timer for the change between day and night does. -/
lemma init (h : e.Regular armable lockable fired) (running : Option Processes) :
    (e.init running).2.Regular armable lockable fired ∧ e.Renews (e.init running).2 := by
  rw [init_state]
  split
  · exact ⟨h, .of_same rfl rfl⟩
  · rename_i hready
    have hnot : e.ready = false := Bool.eq_false_iff.2 hready
    obtain ⟨raised, ⟨hraised, hdormant, hdown⟩, hrise⟩ := rise_cases
      (P := fun next => Tends lockable fired e next ∧ next.Dormant ∧ next.ready = false)
      (by
        rintro next call ⟨ht, hd, hn⟩
        obtain ⟨probe, hprobe⟩ := note_eq next call
        rw [hprobe]
        exact ⟨ht.andThen (·.frame rfl rfl rfl), hd.of_same rfl rfl hd.strategies, hn⟩)
      (by
        rintro next ⟨ht, hd, hn⟩
        have hstarted : Tends lockable fired e (next.moved .init) :=
          ht.andThen (·.moved trivial (fun id task hmove => by cases hmove))
        exact ⟨hstarted, ⟨hd.dayNight, rfl, rfl, hd.lock, hd.strategies⟩, hn⟩)
      (by
        rintro next ⟨ht, hd, hn⟩
        exact ⟨ht.andThen (·.frame rfl rfl rfl), hd.of_same rfl rfl rfl, hn⟩)
      (by
        rintro next listener ⟨ht, hd, hn⟩
        exact ⟨ht.andThen (·.frame rfl rfl rfl), hd.of_same rfl rfl hd.strategies, hn⟩)
      ⟨h.toTended.refl, h.rests hnot, hnot⟩
    rcases hrise with hrise | hrise
    all_goals rw [hrise]
    · refine ⟨h.of_tends hraised (fun _ => hdormant) (fun _ hup => ?_), hraised.toRenews⟩
      exact absurd (hdown.symm.trans hup) (by decide)
    · have hup : Tends lockable fired e { raised with ready := true } :=
        hraised.andThen (·.frame rfl rfl rfl)
      have harmed := hup.andThen (·.armDayNight)
      have hrecovered := harmed.andThen (·.aside ⟨_, rfl, Admission.extends_recover _ running⟩)
      have hstarted : Tends lockable fired e
          (({ raised.armDayNight with
            toAdmission := raised.armDayNight.toAdmission.recover running
            ready := true } : Engine).audit (.serviceStarted raised.armDayNight.pluginName)) :=
        hrecovered.andThen (·.of_extends (.of_same rfl rfl) rfl rfl)
      refine ⟨h.of_tends hstarted (fun hready => by cases hready) (fun harmable _ => ?_),
        hstarted.toRenews⟩
      exact armDayNight_isSome (hraised.failing.trans (h.arming harmable))

/-! ## Moves -/

lemma aside (h : e.Regular armable lockable fired) (haside : e.Aside next) :
    next.Regular armable lockable fired ∧ e.Renews next := by
  obtain ⟨a, rfl, hhost⟩ := haside
  exact h.beside hhost

lemma act (h : e.Regular armable lockable fired) {act : Act} (hact : act ≠ .awaitSnapshot)
    (hhandle : ∀ id kind, act = .handle (.timer id kind) →
      ∀ timer ∈ e.host.timers.pending, timer.id ≠ id)
    (hnext : ∀ id kind, act = .handleNext → e.host.queue.tasks.head? = some (.timer id kind) →
      ∀ timer ∈ e.host.timers.pending, timer.id ≠ id) :
    (e.act act).Regular armable lockable fired ∧ e.Renews (e.act act) := by
  by_cases haside : act.IsAside
  · exact h.aside (aside_act e haside)
  · cases act with
    | uninit => exact ⟨h.uninit.1, h.uninit.2.1⟩
    | reload policy => exact h.reload policy
    | handle task => exact h.handle task (fun id kind htask => hhandle id kind (by rw [htask]))
    | handleNext =>
      rcases act_handleNext e with ⟨-, hsame⟩ | ⟨task, tasks, htasks, hhandled⟩
      · rw [hsame]
        exact ⟨h, .of_same rfl rfl⟩
      · obtain ⟨htaken, hrenews⟩ : (e.withTasks tasks).Regular armable lockable fired ∧
            e.Renews (e.withTasks tasks) :=
          h.aside ⟨(e.withTasks tasks).toAdmission, rfl, .of_same rfl rfl⟩
        obtain ⟨hregular, hlater⟩ := htaken.handle task (fun id kind htask =>
          hnext id kind rfl (by rw [htasks, htask, List.head?_cons]))
        rw [hhandled]
        exact ⟨hregular, hrenews.trans hlater⟩
    | awaitSnapshot => exact absurd rfl hact
    | operate | apply | unapply | allowList | restrictSet | submit | dispatch | report
    | reportDevice | receive => exact absurd trivial haside

/-- Time goes by, and timers fire. -/
lemma advance (h : e.Regular armable lockable fired) (millis : Nat) :
    (e.advance millis).Regular armable lockable (fired ++ (e.host.timers.advance millis).1) := by
  refine ⟨⟨h.tidy.advance millis, h.sound, h.ordered.of_sublist rfl List.filter_sublist, ?_, ?_,
    fun hlockable => (h.balanced hlockable).congr rfl rfl, h.apart, ?_, ?_⟩, h.arming,
    fun hready => ?_, h.waits⟩
  · intro timer hmem
    rcases List.mem_append.1 hmem with hold | hfires
    · exact h.given timer hold
    · exact h.ordered.counted timer (List.mem_filter.1 (TimerSource.mem_byDue.1 hfires)).1
  · exact h.owns.others rfl (fun timer hmem => Or.inl (List.mem_filter.1 hmem).1)
  · exact fun timer hmem => h.sole timer (List.mem_filter.1 hmem).1
  · intro id hid
    obtain ⟨timer, hmem, htimer⟩ := h.awaited id hid
    refine ⟨timer, ?_, htimer⟩
    rcases List.mem_append.1 hmem with hpending | hfired
    · by_cases hdue : timer.due ≤ e.host.timers.now + wrap64 millis
      · have hfires : timer ∈ (e.host.timers.advance millis).1 :=
          TimerSource.mem_byDue.2 (List.mem_filter.2 ⟨hpending, decide_eq_true hdue⟩)
        exact List.mem_append_right _ (List.mem_append_right _ hfires)
      · exact List.mem_append_left _ (List.mem_filter.2 ⟨hpending, decide_eq_true hdue⟩)
    · exact List.mem_append_right _ (List.mem_append_left _ hfired)
  · exact (h.rests hready).of_same rfl rfl (h.rests hready).strategies

/-- A timer for the change between day and night is not remembered any more once it was
delivered. -/
lemma handle_dayNight_ne (h : e.Regular armable lockable fired) (id : TimerId) :
    (e.handle (.timer id .dayNightSwitch)).dayNightTimer ≠ some id := by
  by_cases hid : e.dayNightTimer = some id
  · cases hready : e.ready with
    | false =>
      have hnone := (h.rests hready).dayNight
      rw [hid] at hnone
      cases hnone
    | true =>
      obtain ⟨listener, probe, strategies, hturned⟩ := handle_dayNight hready hid
      have hgiven : id < e.host.timers.nextId := (h.tidy.dayNight id hid).1
      rw [hturned]
      obtain ⟨-, hnone, -⟩ | ⟨-, hsome, -⟩ := armDayNight_cases
        ({ e with dayNightTimer := none, listener, probe, strategies } : Engine)
      · rw [hnone]
        exact fun hsame => by cases hsame
      · rw [hsome]
        exact fun hsame => absurd (Option.some.inj hsame) (Nat.ne_of_gt hgiven)
  · rw [handle_dayNight_of_ne hid]
    exact hid

/-- A timer that has fired is delivered.  If it is the one for the change between day and night that
the engine remembers, another one takes its place. -/
lemma heed (h : e.Regular armable lockable fired) (timer : ArmedTimer)
    (hfires : ∀ other ∈ e.host.timers.pending, other.id ≠ timer.id) :
    (e.handle (.timer timer.id timer.task)).Regular armable lockable (fired.erase timer) ∧
      e.Renews (e.handle (.timer timer.id timer.task)) := by
  obtain ⟨hhandled, hrenews⟩ := h.handle (.timer timer.id timer.task) (by
    rintro id kind ⟨⟩
    exact hfires)
  refine ⟨{ hhandled with
    given := fun other hmem => hhandled.given other (List.mem_of_mem_erase hmem)
    awaited := fun id hid => ?_ }, hrenews⟩
  obtain ⟨other, hmem, hother, htask⟩ := hhandled.awaited id hid
  refine ⟨other, ?_, hother, htask⟩
  rcases List.mem_append.1 hmem with hpending | hfired
  · exact List.mem_append_left _ hpending
  · refine List.mem_append_right _ ((List.mem_erase_of_ne ?_).2 hfired)
    rintro rfl
    rw [htask] at hid
    exact h.handle_dayNight_ne other.id (hother ▸ hid)

/-- A collaborator begins to fail, or works again. -/
lemma fail (h : e.Regular armable lockable fired) {failing : Failing} {on : Bool}
    (harm : armable → ¬ (failing = .arm ∧ on = true))
    (hlock : lockable → ¬ (failing = .acquire ∧ on = true)) :
    ({ e with host := e.host.setFailing failing on } : Engine).Regular armable lockable fired := by
  have howns : (e.rig.moved e.plugin.constraint e.policy (.host (.fail failing on))).Owns :=
    h.owns.moved h.sound (fun id task hmove => by cases hmove)
  have hbalanced : lockable →
      (e.rig.moved e.plugin.constraint e.policy (.host (.fail failing on))).Balanced := by
    intro hlockable
    refine (h.balanced hlockable).moved h.sound (fun hmove => hlock hlockable ?_)
    cases hmove
    exact ⟨rfl, rfl⟩
  refine ⟨⟨?_, h.sound, h.ordered.moved (.fail failing on), ?_, howns, hbalanced, h.apart, ?_, ?_⟩,
    fun harmable => ?_, fun hready => (h.rests hready).of_same rfl rfl (h.rests hready).strategies,
    h.waits⟩
  · cases failing <;> exact ⟨h.tidy.numbered, h.tidy.state, h.tidy.phase, h.tidy.dayNight⟩
  · cases failing <;> exact h.given
  · cases failing <;> exact h.sole
  · cases failing <;> exact h.awaited
  · have hallowed := harm harmable
    have harming := h.arming harmable
    cases failing with
    | arm => simpa [Host.setFailing] using hallowed
    | post | acquire | release | load | save | audit => exact harming

lemma refusePhase (h : e.Regular armable lockable fired) :
    (e.drive Rig.refusePhase).Regular armable lockable fired ∧
      e.Renews (e.drive Rig.refusePhase) := by
  have hrefused : Tends lockable fired e (e.moved .refusePhase) :=
    h.toTended.moved trivial (fun id task hmove => by cases hmove)
  have hmachine : (e.drive Rig.refusePhase).machine = { e.machine with
      phaseTimer := none
      lockHeld := e.machine.lockHeld && e.machine.phaseTimer.isNone } :=
    Rig.refusePhase_machine e.rig
  refine ⟨h.of_tends hrefused (fun hready => ?_) h.waits, hrefused.toRenews⟩
  have hdormant := h.rests hready
  exact ⟨hdormant.dayNight, (congrArg Machine.stateTimer hmachine).trans hdormant.state,
    congrArg Machine.phaseTimer hmachine,
    (congrArg Machine.lockHeld hmachine).trans (by rw [hdormant.lock, Bool.false_and]),
    hdormant.strategies⟩

end Regular

/-- A new engine is regular if no timers are armed but such as revoke exemptions. -/
lemma regular_of_create {registry : Registry} {policy : Policy} {host : Host} {probe : Probe}
    (hmade : create? registry policy host probe = .ok e) (hordered : host.timers.Ordered)
    (hrevokes : ∀ timer ∈ host.timers.pending, timer.task.isRevoke = true)
    (harming : armable → host.timers.failing = false) (hlock : lockable → host.wakeLock = {}) :
    e.Regular armable lockable [] := by
  unfold create? at hmade
  split at hmade
  · cases hmade
  · obtain rfl := Except.ok.inj hmade
    have hforeign : ∀ timer ∈ host.timers.pending, timer.task.ofMachine = false :=
      fun timer hmem => TimerTask.ofMachine_of_isRevoke (hrevokes timer hmem)
    refine ⟨⟨⟨?_, nofun, nofun, nofun⟩, Rig.sound_init (⟨{}, host, probe⟩ : Rig Probe), hordered,
      List.forall_mem_nil _, .of_unarmed hforeign, fun hlockable => ?_, nofun,
      fun timer hmem htask => ?_, nofun⟩, harming, fun _ => ⟨rfl, rfl, rfl, rfl, rfl⟩,
      fun _ hready => by cases hready⟩
    · exact fun timer hmem => hordered.counted timer (TimerSource.mem_pending_of_mem_revokes hmem)
    · have hnew : MachineRun.Reachable Probe.constraint
          (fun _ move => move ≠ .host (.fail .acquire true)) (.start ⟨{}, host, probe⟩ policy)
          (.start ⟨{}, host, probe⟩ policy) := .start
      exact (hnew.balanced (hlock hlockable)).congr rfl rfl
    · have hrevoke := hrevokes timer hmem
      simp [htask, TimerTask.isRevoke] at hrevoke

end Engine

/-! ## Runs -/

namespace EngineRun

/-- The task that is handled in a move. -/
def handled? (run : EngineRun) : EngineMove → Option Task
  | .act (.handle task) => some task
  | .act .handleNext => run.engine.host.queue.tasks.head?
  | .heed timer => some (.timer timer.id timer.task)
  | _ => none

/-- A timer is handed to the engine only when it is not armed any more. -/
def Fires (run : EngineRun) (move : EngineMove) : Prop :=
  ∀ id task, run.handled? move = some (.timer id task) →
    ∀ timer ∈ run.engine.host.timers.pending, timer.id ≠ id

/-- Every move leaves a regular engine regular, and gives no number away again. -/
theorem regular_after {armable lockable : Prop} {run : EngineRun} {move : EngineMove}
    (h : run.engine.Regular armable lockable run.fired) (hsingle : move.IsSingle)
    (hfires : run.Fires move) (harm : armable → move ≠ .fail .arm true)
    (hlock : lockable → move ≠ .fail .acquire true) :
    (run.after move).engine.Regular armable lockable (run.after move).fired ∧
      run.engine.Renews (run.after move).engine := by
  cases move with
  | act act =>
    refine h.act (fun heq => by rw [heq] at hsingle; exact hsingle) ?_ ?_
    · rintro id kind rfl
      exact hfires id kind rfl
    · rintro id kind rfl hhead
      exact hfires id kind hhead
  | init running => exact h.init running
  | advance millis => exact ⟨h.advance millis, .of_same rfl rfl⟩
  | heed timer => exact h.heed timer (hfires timer.id timer.task rfl)
  | setWall moment =>
    exact h.aside ⟨{ run.engine.toAdmission with
      host := { run.engine.host with wall := moment } }, rfl, .of_same rfl rfl⟩
  | fail failing on =>
    refine ⟨h.fail (fun harmable hallowed => ?_) (fun hlockable hallowed => ?_),
      .of_same (Host.moved_nextId (.fail failing on)) rfl⟩
    · exact harm harmable (by rw [hallowed.1, hallowed.2])
    · exact hlock hlockable (by rw [hallowed.1, hallowed.2])

end EngineRun

/-- Wherever a course gets, the engine is regular, and no number was given away again. -/
theorem Course.regular {armable lockable : Prop} {Allows : EngineRun → EngineMove → Prop}
    {start run : EngineRun} {changes : List (State × State)} (h : Course Allows start changes run)
    (hfires : ∀ run move, Allows run move → run.Fires move)
    (harm : armable → ∀ run move, Allows run move → move ≠ .fail .arm true)
    (hlock : lockable → ∀ run move, Allows run move → move ≠ .fail .acquire true)
    (hstart : start.engine.Regular armable lockable start.fired) :
    run.engine.Regular armable lockable run.fired ∧ start.engine.Renews run.engine := by
  induction h with
  | start => exact ⟨hstart, .of_same rfl rfl⟩
  | move _ single allowed ih =>
    obtain ⟨hregular, hrenews⟩ := ih
    obtain ⟨hafter, hlater⟩ := EngineRun.regular_after hregular single (hfires _ _ allowed)
      (fun harmable => harm harmable _ _ allowed) (fun hlockable => hlock hlockable _ _ allowed)
    exact ⟨hafter, hrenews.trans hlater⟩
  | refusePhase _ ih => exact ⟨ih.1.refusePhase.1, ih.2.trans ih.1.refusePhase.2⟩

end DeviceStandby
