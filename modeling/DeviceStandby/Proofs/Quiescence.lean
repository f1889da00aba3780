import DeviceStandby.Proofs.Momentum

/-!
# The engine comes to rest without time going by

In a round all tasks of the queue are handled, and then all timers that are due
(`Engine.round`).  Handling a task posts no more than a message about a change of the machine and
one about a loss of exemptions, and messages of this kind (`Task.isEcho`) have no consequences of
their own; so the queue gets empty in each round.

After one round none of the timers that are due leads to maintenance, because those that did have
fired and new ones are not due yet (`Engine.Echoing`).  From then on each round takes momentum away
from the machine, or leaves no timer that is due.
-/

namespace DeviceStandby

/-! ## Messages without consequences -/

/-- Whether the task is a message about what the service itself did. -/
def Task.isEcho : Task → Bool
  | .message body =>
    match body.kind with
    | .stateTransit | .phaseTransit | .allowListChanged => true
    | _ => false
  | .timer _ _ | .evaluationFinished _ | .snapshot => false

/-- At most one task was posted, and it has no consequences. -/
def Echoes (more : List Task) : Prop := more.length ≤ 1 ∧ ∀ task ∈ more, task.isEcho = true

lemma echoes_nil : Echoes [] := ⟨Nat.zero_le _, List.forall_mem_nil _⟩

lemma echoes_heard (host : Host) {message : Message}
    (h : (Task.message message).isEcho = true) : Echoes (host.heard message) := by
  unfold Host.heard
  split
  · exact echoes_nil
  · exact ⟨Nat.le_refl _, List.forall_mem_singleton.2 h⟩

lemma Rig.Tells.echoes {σ : Type} {rig after : Rig σ} {more : List Task}
    (h : rig.Tells after more) : Echoes more := by
  rcases h.posted with ⟨-, rfl | ⟨previous, next, rfl⟩⟩ | ⟨-, rfl⟩
  · exact echoes_nil
  · exact echoes_heard _ rfl
  · exact echoes_heard _ rfl

lemma Admission.TellsLoss.echoes {more : List Task} (h : TellsLoss more) : Echoes more := by
  rcases h with rfl | ⟨uid, name, mask, rfl⟩
  · exact echoes_nil
  · exact ⟨Nat.le_refl _, List.forall_mem_singleton.2 rfl⟩

namespace Engine

variable {counted : Prop} {e : Engine} {task : Task} {timer : ArmedTimer}

lemma workload_of_echo (h : task.isEcho = true) : workload task = 1 := by
  cases task with
  | timer | evaluationFinished | snapshot => cases h
  | message body =>
    revert h
    cases hkind : body.kind <;> simp [Task.isEcho, workload, hkind]

lemma workload_cases (task : Task) :
    task.isEcho = true ∨ task = .snapshot ∨ workload task = 3 := by
  cases task with
  | message body => cases hkind : body.kind <;> simp [Task.isEcho, workload, hkind]
  | timer | evaluationFinished => exact Or.inr (Or.inr rfl)
  | snapshot => exact Or.inr (Or.inl rfl)

/-- Machine, host and exemptions take no note of a message that has no consequences. -/
lemma handle_echo (e : Engine) (h : task.isEcho = true) :
    (e.handle task).machine = e.machine ∧ (e.handle task).toAdmission = e.toAdmission := by
  cases task with
  | timer | evaluationFinished | snapshot => cases h
  | message body =>
    have hquiet : body.kind ≠ .commonEvent ∧ body.kind ≠ .deviceStateChanged := by
      constructor <;> exact fun hkind => by simp [Task.isEcho, hkind] at h
    obtain ⟨listener, probe, strategies, hdeliver, -⟩ := e.deliver_idle hquiet.1 hquiet.2
    show (e.deliver body).machine = e.machine ∧ (e.deliver body).toAdmission = e.toAdmission
    rw [hdeliver]
    exact ⟨rfl, rfl⟩

/-- Handling a task posts less than it was reckoned to, no time goes by, and what is posted has no
consequences. -/
lemma Ordered.posts (h : e.Ordered counted) (task : Task) :
    (e.handle task).host.now = e.host.now ∧
    ∃ more, (e.handle task).host.queue.tasks = e.host.queue.tasks ++ more ∧
      more.length < workload task ∧ ∀ task ∈ more, task.isEcho = true := by
  obtain ⟨probe, loss, -, hwork, hloss⟩ := (heeded_handle e task).work
  obtain ⟨-, told, htells⟩ := h.driven probe task
  refine ⟨hwork.now.trans htells.worked.now, ?_⟩
  rcases workload_cases task with hecho | rfl | hload
  · refine ⟨[], ?_, ?_, List.forall_mem_nil _⟩
    · rw [congrArg Admission.host (e.handle_echo hecho).2, List.append_nil]
    · rw [workload_of_echo hecho]
      decide
  · exact ⟨[], (List.append_nil _).symm, by decide, List.forall_mem_nil _⟩
  · obtain ⟨hshort, hechoes⟩ := htells.echoes
    obtain ⟨hshort', hechoes'⟩ := hloss.echoes
    refine ⟨told ++ loss, ?_, ?_, List.forall_mem_append.2 ⟨hechoes, hechoes'⟩⟩
    · rw [hwork.posted, htells.worked.posted, List.append_assoc]
    · rw [List.length_append, hload]
      omega

/-! ## Working off the queue -/

/-- What handling the first task of the queue keeps, is kept when the queue is worked off. -/
lemma handleSome_induct {P : Engine → Prop}
    (hstep : ∀ (e : Engine) task tasks, e.host.queue.tasks = task :: tasks → P e →
      P ((e.withTasks tasks).handle task)) (count : Nat) (h : P e) :
    P (handleSome count e).2 := by
  induction count generalizing e with
  | zero => exact h
  | succ count ih =>
    rw [handleSome, handleNext]
    cases htasks : e.host.queue.tasks with
    | nil => exact h
    | cons task tasks => exact ih (hstep e task tasks htasks h)

/-- How many tasks are handled at most until these and all that comes of them are worked off. -/
def load : List Task → Nat
  | [] => 0
  | task :: tasks => workload task + load tasks

lemma load_append (tasks more : List Task) : load (tasks ++ more) = load tasks + load more := by
  induction tasks with
  | nil => exact (Nat.zero_add _).symm
  | cons task tasks ih => rw [List.cons_append, load, load, ih, Nat.add_assoc]

lemma load_of_echoes {more : List Task} (h : ∀ task ∈ more, task.isEcho = true) :
    load more = more.length := by
  induction more with
  | nil => rfl
  | cons task more ih =>
    obtain ⟨hfirst, hothers⟩ := List.forall_mem_cons.1 h
    rw [load, List.length_cons, ih hothers, workload_of_echo hfirst, Nat.add_comm]

lemma foldl_workload (tasks : List Task) (start : Nat) :
    (tasks.map workload).foldl (· + ·) start = start + load tasks := by
  induction tasks generalizing start with
  | nil => rfl
  | cons task tasks ih => rw [List.map_cons, List.foldl_cons, ih, load, Nat.add_assoc]

/-- The load gets less with each task that is handled. -/
lemma Ordered.load_lt (h : e.Ordered counted) {tasks : List Task}
    (htasks : e.host.queue.tasks = task :: tasks) :
    load ((e.withTasks tasks).handle task).host.queue.tasks < load e.host.queue.tasks := by
  obtain ⟨-, more, hposted, hshort, hechoes⟩ := (h.withTasks tasks).posts task
  have hrest : (e.withTasks tasks).host.queue.tasks = tasks := rfl
  rw [hposted, hrest, htasks, load_append, load_of_echoes hechoes, load]
  omega

lemma Ordered.handleSome_empties (h : e.Ordered counted) {count : Nat}
    (hcount : load e.host.queue.tasks ≤ count) :
    (handleSome count e).2.host.queue.tasks = [] := by
  induction count generalizing e with
  | zero =>
    cases htasks : e.host.queue.tasks with
    | nil => exact htasks
    | cons task tasks =>
      exact absurd (Nat.lt_of_lt_of_le (h.load_lt htasks) hcount) (Nat.not_lt_zero _)
  | succ count ih =>
    rw [handleSome, handleNext]
    cases htasks : e.host.queue.tasks with
    | nil => exact htasks
    | cons task tasks =>
      have hless := h.load_lt htasks
      exact ih ((h.withTasks tasks).handle task)
        (Nat.le_of_lt_succ (Nat.lt_of_lt_of_le hless hcount))

/-- The queue gets empty when it is worked off, however much that brings about. -/
theorem Ordered.drain_empties (h : e.Ordered counted) : e.drain.2.host.queue.tasks = [] := by
  refine h.handleSome_empties ?_
  rw [foldl_workload, Nat.zero_add]

/-- Working off the queue keeps the engine in order and its policy, and takes no time. -/
lemma Ordered.drain (h : e.Ordered counted) :
    e.drain.2.Ordered counted ∧ e.drain.2.policy = e.policy ∧ e.drain.2.host.now = e.host.now := by
  refine handleSome_induct (P := fun next => next.Ordered counted ∧ next.policy = e.policy ∧
    next.host.now = e.host.now) ?_ _ ⟨h, rfl, rfl⟩
  rintro next task tasks - ⟨hnext, hpolicy, hnow⟩
  exact ⟨(hnext.withTasks tasks).handle task, (heeded_handle _ task).policy.trans hpolicy,
    ((hnext.withTasks tasks).posts task).1.trans hnow⟩

/-- Messages without consequences are worked off, and that is all. -/
lemma handleSome_echoes {count : Nat} (hechoes : ∀ task ∈ e.host.queue.tasks, task.isEcho = true)
    (hcount : e.host.queue.tasks.length ≤ count) :
    (handleSome count e).1 = e.host.queue.tasks ∧ (handleSome count e).2.machine = e.machine ∧
      (handleSome count e).2.toAdmission = (e.withTasks []).toAdmission := by
  have hself : e.withTasks e.host.queue.tasks = e := rfl
  induction count generalizing e with
  | zero =>
    have hidle : e.host.queue.tasks = [] := List.length_eq_zero_iff.1 (Nat.le_zero.1 hcount)
    rw [← hidle, hself, hidle]
    exact ⟨rfl, rfl, rfl⟩
  | succ count ih =>
    rw [handleSome, handleNext]
    cases htasks : e.host.queue.tasks with
    | nil =>
      rw [← htasks, hself, htasks]
      exact ⟨rfl, rfl, rfl⟩
    | cons task tasks =>
      rw [htasks] at hechoes hcount
      obtain ⟨hecho, hothers⟩ := List.forall_mem_cons.1 hechoes
      obtain ⟨hmachine, hadmission⟩ := (e.withTasks tasks).handle_echo hecho
      have hrest : ((e.withTasks tasks).handle task).host.queue.tasks = tasks := by
        rw [hadmission]
        rfl
      obtain ⟨hhandled, hsame, hlast⟩ := ih (e := (e.withTasks tasks).handle task) (by rwa [hrest])
        (by rw [hrest]; exact Nat.le_of_succ_le_succ hcount) rfl
      refine ⟨congrArg (List.cons task) (hhandled.trans hrest), hsame.trans hmachine,
        hlast.trans ?_⟩
      exact congrArg (fun a : Admission =>
        { a with host := { a.host with queue := { a.host.queue with tasks := [] } } }) hadmission

/-- If nothing in the queue has consequences, working it off makes no difference to the machine and
its timers. -/
lemma drain_of_echoes (hechoes : ∀ task ∈ e.host.queue.tasks, task.isEcho = true) :
    e.drain.2.machine = e.machine ∧ e.drain.2.host.timers = e.host.timers := by
  have hcount : e.host.queue.tasks.length ≤ (e.host.queue.tasks.map workload).foldl (· + ·) 0 := by
    rw [foldl_workload, load_of_echoes hechoes, Nat.zero_add]
  obtain ⟨-, hmachine, hadmission⟩ := handleSome_echoes hechoes hcount
  exact ⟨hmachine, congrArg (fun a => a.host.timers) hadmission⟩

/-! ## Timers that are due -/

/-- Heeds a timer that has fired. -/
def heed (e : Engine) (timer : ArmedTimer) : Engine := e.handle (.timer timer.id timer.task)

/-- All timers that are due fire, and are heeded one after the other. -/
def fire (e : Engine) : Engine := (e.host.timers.advance 0).1.foldl heed (e.advance 0)

/-- The queue is worked off, and then all timers that are due fire. -/
def round (e : Engine) : Engine := e.drain.2.fire

/-- No armed timer is due. -/
def Still (e : Engine) : Prop := ∀ timer ∈ e.host.timers.pending, e.host.now < timer.due

/-- Nothing is left to do until time goes by. -/
structure Resting (e : Engine) : Prop where
  idle : e.host.queue.tasks = []
  still : e.Still

/-- The engine of a session that is worked off and then moved by no time makes a round. -/
theorem round_eq_advance (s : Session) : (s.pump.advance 0 false).engine = s.engine.round := by
  have hheeded : ∀ (due : List ArmedTimer) (s : Session),
      (due.foldl (fun s timer =>
        let s := s.handle (.timer timer.id timer.task)
        if false then s.pump else s) s).engine = due.foldl heed s.engine := by
    intro due
    induction due with
    | nil => exact fun _ => rfl
    | cons timer due ih => exact fun s => ih _
  exact hheeded _ _

lemma now_advance (e : Engine) : (e.advance 0).host.now = e.host.now := by
  show e.host.now + wrap64 0 = e.host.now
  rw [wrap64_of_le (Int.le_refl 0) (by decide), Int.add_zero]

/-- When all timers that are due have fired, none is left. -/
lemma still_advance (e : Engine) : (e.advance 0).Still := by
  intro timer hmem
  have hdue := of_decide_eq_true (List.mem_filter.1 hmem).2
  exact Int.not_le.1 hdue

lemma mem_fired {e : Engine} (h : timer ∈ (e.host.timers.advance 0).1) :
    timer ∈ e.host.timers.pending ∧ timer.due ≤ e.host.now := by
  obtain ⟨hmem, hdue⟩ := List.mem_filter.1 (TimerSource.mem_byDue.1 h)
  refine ⟨hmem, ?_⟩
  rw [← e.now_advance]
  exact of_decide_eq_true hdue

lemma Turns.lt_due {policy : Policy} {now : Int} (h : Turns policy now timer)
    (hspaced : policy.Spaced) : now < timer.due := by
  obtain ⟨-, wall, hdue⟩ := h
  have hedge := hspaced.edges wall.secondOfDay wall.secondOfDay_lt
  omega

/-- What a heeded timer comes to: the machine takes a step or stays as it is, and after that timers
are armed only if they are not due. -/
lemma heed_step (h : e.Ordered True) (hspaced : e.policy.Spaced) (timer : ArmedTimer) :
    ∃ (probe : Probe) (after : Rig Probe), (after = ⟨e.machine, e.host, probe⟩ ∨
        Rig.Step e.policy ⟨e.machine, e.host, probe⟩ (some (timer.id, timer.task)) after) ∧
      e.host.timers.nextId ≤ (e.heed timer).host.timers.nextId ∧
      (e.heed timer).machine = after.machine ∧
      ∀ other ∈ (e.heed timer).host.timers.pending,
        other ∈ after.host.timers.pending ∨ e.host.now < other.due := by
  obtain ⟨probe, loss, hmachine, hwork, -⟩ := (heeded_handle e (.timer timer.id timer.task)).work
  obtain ⟨-, told, htells⟩ := h.driven probe (.timer timer.id timer.task)
  refine ⟨probe, _, ?_, Nat.le_trans htells.worked.numbers hwork.numbers, hmachine,
    fun other hmem => ?_⟩
  · unfold driven
    split
    · exact Or.inr (Rig.step_onTimer _ _ h.machine timer.id timer.task)
    · exact Or.inl rfl
  · rcases hwork.pending other hmem with hold | ⟨hturns, -⟩
    · exact Or.inl hold
    · rw [htells.worked.now] at hturns
      exact Or.inr (hturns.lt_due hspaced)

/-- A timer that leads to maintenance when another one was heeded did so before, or it is new and
not due. -/
lemma heed_maintains (h : e.Ordered True) (hspaced : e.policy.Spaced) {other : ArmedTimer}
    (hmaintains : (e.heed timer).machine.Maintains other) :
    (e.machine.Maintains other ∧ (other ∈ (e.heed timer).host.timers.pending →
      other ∈ e.host.timers.pending ∨ e.host.now < other.due)) ∨
    (e.host.timers.nextId ≤ other.id ∧
      (other ∈ (e.heed timer).host.timers.pending → e.host.now < other.due)) := by
  obtain ⟨probe, after, hstep, -, hafter, hpending⟩ := heed_step h hspaced timer
  rw [hafter] at hmaintains
  rcases hstep with rfl | hstep
  · exact Or.inl ⟨hmaintains, hpending other⟩
  · rcases hstep.maintains hspaced h.machine hmaintains with ⟨hbefore, hold⟩ | ⟨hnew, hdue⟩
    · exact Or.inl ⟨hbefore, fun hmem => (hpending other hmem).imp_left hold⟩
    · exact Or.inr ⟨hnew, fun hmem => (hpending other hmem).elim (hdue (h.timers trivial)) id⟩

/-- A heeded timer that does not lead to maintenance takes momentum away, or arms no timer that is
due. -/
lemma heed_slows (h : e.Ordered True) (hspaced : e.policy.Spaced)
    (hleads : ¬ e.machine.Maintains timer) :
    (e.heed timer).machine.momentum < e.machine.momentum ∨
    ((e.heed timer).machine.momentum ≤ e.machine.momentum ∧
      ∀ other ∈ (e.heed timer).host.timers.pending,
        other ∈ e.host.timers.pending ∨ e.host.now < other.due) := by
  obtain ⟨probe, after, hstep, -, hafter, hpending⟩ := heed_step h hspaced timer
  rw [hafter]
  rcases hstep with rfl | hstep
  · exact Or.inr ⟨Nat.le_refl _, hpending⟩
  · refine (hstep.slows h.machine hleads).imp_right (fun ⟨hle, hold⟩ => ⟨hle, fun other hmem => ?_⟩)
    exact (hpending other hmem).imp_left (hold other)

/-! ## Rounds -/

/-- The engine is between two rounds: nothing in the queue has consequences, and no timer that is
due leads to maintenance. -/
structure Echoing (e : Engine) : Prop where
  ordered : e.Ordered True
  spaced : e.policy.Spaced
  echoes : ∀ task ∈ e.host.queue.tasks, task.isEcho = true
  patient : ∀ timer ∈ e.host.timers.pending, timer.due ≤ e.host.now →
    ¬ e.machine.Maintains timer

namespace Echoing

lemma heed (h : e.Echoing) (timer : ArmedTimer) : (e.heed timer).Echoing := by
  obtain ⟨hnow, more, hposted, -, hechoes⟩ := h.ordered.posts (.timer timer.id timer.task)
  have hpolicy := (heeded_handle e (.timer timer.id timer.task)).policy
  refine ⟨h.ordered.handle _, hpolicy ▸ h.spaced, ?_, fun other hmem hdue hmaintains => ?_⟩
  · show ∀ task ∈ (e.handle (.timer timer.id timer.task)).host.queue.tasks, task.isEcho = true
    rw [hposted]
    exact List.forall_mem_append.2 ⟨h.echoes, hechoes⟩
  · have hdue : other.due ≤ e.host.now := hnow ▸ hdue
    rcases heed_maintains h.ordered h.spaced hmaintains with ⟨hbefore, hold⟩ | ⟨-, hlater⟩
    · rcases hold hmem with hold | hlater
      · exact h.patient other hold hdue hbefore
      · exact absurd hlater (Int.not_lt.2 hdue)
    · exact absurd (hlater hmem) (Int.not_lt.2 hdue)

lemma foldl (h : e.Echoing) (fired : List ArmedTimer) : (fired.foldl Engine.heed e).Echoing := by
  induction fired generalizing e with
  | nil => exact h
  | cons timer fired ih => exact ih (h.heed timer)

/-- If no timer that fired leads to maintenance, there is less momentum when they were heeded, or
none is due. -/
lemma foldl_slows (bound : Nat) (fired : List ArmedTimer) (h : e.Echoing)
    (hfired : ∀ timer ∈ fired, timer.id < e.host.timers.nextId ∧ ¬ e.machine.Maintains timer)
    (hslow : e.machine.momentum < bound ∨ (e.machine.momentum ≤ bound ∧ e.Still)) :
    (fired.foldl Engine.heed e).machine.momentum < bound ∨
      ((fired.foldl Engine.heed e).machine.momentum ≤ bound ∧
        (fired.foldl Engine.heed e).Still) := by
  induction fired generalizing e with
  | nil => exact hslow
  | cons timer fired ih =>
    obtain ⟨⟨-, hleads⟩, hothers⟩ := List.forall_mem_cons.1 hfired
    refine ih (h.heed timer) (fun other hmem => ⟨?_, fun hmaintains => ?_⟩) ?_
    · obtain ⟨-, -, -, hnumbers, -⟩ := heed_step h.ordered h.spaced timer
      exact Nat.lt_of_lt_of_le (hothers other hmem).1 hnumbers
    · rcases heed_maintains h.ordered h.spaced hmaintains with ⟨hbefore, -⟩ | ⟨hnew, -⟩
      · exact (hothers other hmem).2 hbefore
      · exact absurd (hothers other hmem).1 (Nat.not_lt.2 hnew)
    · have hnow := (h.ordered.posts (.timer timer.id timer.task)).1
      rcases heed_slows h.ordered h.spaced hleads with hless | ⟨hle, hold⟩
      · refine Or.inl (Nat.lt_of_lt_of_le hless ?_)
        exact hslow.elim Nat.le_of_lt And.left
      · refine hslow.imp (Nat.lt_of_le_of_lt hle) (fun ⟨hbound, hstill⟩ =>
          ⟨Nat.le_trans hle hbound, fun other hmem => ?_⟩)
        show (e.handle (.timer timer.id timer.task)).host.now < other.due
        rw [hnow]
        exact (hold other hmem).elim (hstill other) id

end Echoing

/-- When the queue is empty, the timers that are due can fire. -/
lemma echoing_advance (h : e.Ordered True) (hspaced : e.policy.Spaced)
    (hidle : e.host.queue.tasks = []) : (e.advance 0).Echoing where
  ordered := h.advance 0
  spaced := hspaced
  echoes := by
    show ∀ task ∈ e.host.queue.tasks, task.isEcho = true
    rw [hidle]
    exact List.forall_mem_nil _
  patient := fun timer hmem hdue => absurd (e.still_advance timer hmem) (Int.not_lt.2 hdue)

/-- Wherever the engine was, it is between two rounds after the first one. -/
theorem echoing_round (h : e.Ordered True) (hspaced : e.policy.Spaced) : e.round.Echoing := by
  obtain ⟨hdrained, hpolicy, -⟩ := h.drain
  exact (echoing_advance hdrained (hpolicy ▸ hspaced) h.drain_empties).foldl _

namespace Echoing

/-- A round takes momentum away, or leaves no timer that is due. -/
theorem round_slows (h : e.Echoing) :
    e.round.machine.momentum < e.machine.momentum ∨ e.round.Still := by
  obtain ⟨hdrained, hpolicy, hnow⟩ := h.ordered.drain
  obtain ⟨hmachine, htimers⟩ := drain_of_echoes h.echoes
  have hstart := echoing_advance hdrained (hpolicy ▸ h.spaced) h.ordered.drain_empties
  have hslows := foldl_slows e.machine.momentum (e.drain.2.host.timers.advance 0).1 hstart
    (fun timer hmem => ?_)
    (Or.inr ⟨Nat.le_of_eq (congrArg Machine.momentum hmachine), e.drain.2.still_advance⟩)
  · exact hslows.imp_right And.right
  · obtain ⟨hpending, hdue⟩ := mem_fired hmem
    refine ⟨hdrained.timers trivial timer hpending, ?_⟩
    rw [htimers] at hpending
    rw [hnow] at hdue
    show ¬ e.drain.2.machine.Maintains timer
    rw [hmachine]
    exact h.patient timer hpending hdue

/-- If no timer is due, the engine comes to rest in the next round. -/
lemma resting_round (h : e.Echoing) (hstill : e.Still) : e.round.Resting := by
  obtain ⟨-, -, hnow⟩ := h.ordered.drain
  obtain ⟨-, htimers⟩ := drain_of_echoes h.echoes
  have hnone : (e.drain.2.host.timers.advance 0).1 = [] := by
    refine List.eq_nil_iff_forall_not_mem.2 (fun timer hmem => ?_)
    obtain ⟨hpending, hdue⟩ := mem_fired hmem
    rw [htimers] at hpending
    rw [hnow] at hdue
    exact absurd (hstill timer hpending) (Int.not_lt.2 hdue)
  rw [round, fire, hnone]
  exact ⟨h.ordered.drain_empties, e.drain.2.still_advance⟩

lemma rests {bound : Nat} (h : e.Echoing) (hbound : e.machine.momentum ≤ bound) :
    ∃ n ≤ bound + 2, (round^[n] e).Resting := by
  induction bound generalizing e with
  | zero =>
    rcases h.round_slows with hless | hstill
    · exact absurd (Nat.lt_of_lt_of_le hless hbound) (Nat.not_lt_zero _)
    · exact ⟨2, Nat.le_refl _, (echoing_round h.ordered h.spaced).resting_round hstill⟩
  | succ bound ih =>
    rcases h.round_slows with hless | hstill
    · obtain ⟨n, hn, hrests⟩ := ih (echoing_round h.ordered h.spaced)
        (Nat.le_of_lt_succ (Nat.lt_of_lt_of_le hless hbound))
      exact ⟨n + 1, Nat.succ_le_succ hn, hrests⟩
    · exact ⟨2, by omega, (echoing_round h.ordered h.spaced).resting_round hstill⟩

end Echoing

/-- Rounds keep the engine in order and take no time. -/
lemma Ordered.rounds (h : e.Ordered counted) (n : Nat) :
    (round^[n] e).Ordered counted ∧ (round^[n] e).host.now = e.host.now := by
  have hheeded : ∀ (fired : List ArmedTimer) {e : Engine}, e.Ordered counted →
      (fired.foldl heed e).Ordered counted ∧ (fired.foldl heed e).host.now = e.host.now := by
    intro fired
    induction fired with
    | nil => exact fun h => ⟨h, rfl⟩
    | cons timer fired ih =>
      intro e h
      obtain ⟨hordered, hnow⟩ := ih (h.handle (.timer timer.id timer.task))
      exact ⟨hordered, hnow.trans (h.posts _).1⟩
  induction n generalizing e with
  | zero => exact ⟨h, rfl⟩
  | succ n ih =>
    obtain ⟨hdrained, -, hnow⟩ := h.drain
    obtain ⟨hround, hnow'⟩ := hheeded (e.drain.2.host.timers.advance 0).1 (hdrained.advance 0)
    obtain ⟨hordered, hlater⟩ := ih (e := e.round) hround
    exact ⟨hordered, hlater.trans (hnow'.trans ((now_advance _).trans hnow))⟩

end Engine

/-- The engine comes to rest at every instant.  Under a policy that was read from a file and whose
intervals can be told in milliseconds, wherever the engine has got: in each round the queue gets
empty and no time goes by, and after at most seven rounds the queue is empty and no armed timer is
due.  Timeouts may be zero, and it does not matter which plug-in the engine has, whether it is ready
or whether timers can be armed. -/
theorem rests_within_seven_rounds {registry : Registry} {policy : Policy} {host : Host}
    {probe : Probe} {e : Engine} (hmade : Engine.create? registry policy host probe = .ok e)
    (hcounted : host.timers.Counted) {changes : List (State × State)} {run : EngineRun}
    (h : Course (fun _ _ => True) (.begin e) changes run) {env : Environment} {file : ConfigFile}
    (hpolicy : run.engine.policy = Policy.ofFile env file)
    (hfits : ∀ interval ∈ run.engine.policy.napIntervals ++ run.engine.policy.sleepIntervals,
      ((interval * 1000 : Nat) : Int) ≤ Width.int64.greatest) :
    (∀ n, (Engine.round^[n] run.engine).drain.2.host.queue.tasks = [] ∧
      (Engine.round^[n] run.engine).host.now = run.engine.host.now) ∧
    ∃ n ≤ 7, (Engine.round^[n] run.engine).Resting := by
  have hordered : run.engine.Ordered True := by
    have hreached := h.ordered (Engine.ordered_of_create hmade)
    exact ⟨hreached.machine, fun _ => hreached.timers hcounted⟩
  have hspaced : run.engine.policy.Spaced := by
    rw [hpolicy] at hfits ⊢
    exact Policy.spaced_ofFile env file hfits
  constructor
  · intro n
    obtain ⟨hreached, hnow⟩ := hordered.rounds n
    exact ⟨hreached.drain_empties, hnow⟩
  · obtain ⟨n, hn, hrests⟩ :=
      (Engine.echoing_round hordered hspaced).rests (Machine.momentum_le _)
    exact ⟨n + 1, Nat.succ_le_succ hn, hrests⟩

/-! ## No timeouts -/

/-- All timeouts are zero. -/
def ConfigFile.hasty : ConfigFile where
  format := 1
  timeouts := {
    dark := some 0
    nap := some 0
    napMaintenance := some 0
    sleepMaintenance := some 0 }

/-- The engine is started, and the screen switched off. -/
def EngineMove.nightfall : List EngineMove := [.init none, .act (.receive (.screenStatus false))]

/-- Without timeouts the engine goes from working to the last phase of sleep at once, and rests. -/
theorem hasty_engine_rests :
    let run := (EngineRun.begin (Engine.plain (Policy.ofFile {} .hasty))).afterAll
      EngineMove.nightfall
    (∃ n ≤ 7, (Engine.round^[n] run.engine).Resting) ∧
    (Engine.round^[4] run.engine).drain.2.host.queue.tasks = [] ∧
    (Engine.round^[4] run.engine).host.queue.tasks ≠ [] ∧
    (Engine.round^[4] run.engine).machine.phase = Machine.finalPhase := by
  intro run
  have hsingle : ∀ move ∈ EngineMove.nightfall, move.IsSingle := by
    simp [EngineMove.nightfall, EngineMove.IsSingle]
  have hrun : Course (fun _ _ => True) (.begin (Engine.plain (Policy.ofFile {} .hasty))) _ run :=
    Course.start.afterAll hsingle (fun _ _ _ => trivial)
  have hpolicy : run.engine.policy = Policy.ofFile {} .hasty := by decide +kernel
  obtain ⟨hempties, hrests⟩ := rests_within_seven_rounds (Engine.create?_plain rfl)
    (fun timer hmem => by cases hmem) hrun hpolicy (by decide +kernel)
  have hbusy : (Engine.round^[4] run.engine).host.queue.tasks ≠ [] := by decide +kernel
  have hphase : (Engine.round^[4] run.engine).machine.phase = Machine.finalPhase := by
    decide +kernel
  exact ⟨hrests, (hempties 4).1, hbusy, hphase⟩

end DeviceStandby
