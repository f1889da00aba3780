import DeviceStandby.Proofs.TendedEngines

/-!
# One timer for the change between day and night

The timer for the next change between day and night is armed when the engine is started, when it is
delivered, when the clock is set and when the policy is replaced.  Each time the one before may be
armed still, or may have fired and be on its way.  As long as timers can be armed there is exactly
one that counts (`one_day_night_timer`): the engine remembers its number, and a timer with another
number is of no effect, then or later.
-/

namespace DeviceStandby

/-- A timer is handed to the engine only when it is not armed any more, and timers can always be
armed. -/
def EngineRun.Punctual (run : EngineRun) (move : EngineMove) : Prop :=
  run.Fires move ∧ move ≠ .fail .arm true

lemma Course.regular_of_punctual {start run : EngineRun} {changes : List (State × State)}
    (h : Course EngineRun.Punctual start changes run)
    (hstart : start.engine.Regular True False start.fired) :
    run.engine.Regular True False run.fired ∧ start.engine.Renews run.engine :=
  h.regular (fun _ _ hallowed => hallowed.1) (fun _ _ _ hallowed => hallowed.2) False.elim hstart

/-- A new engine finds no timers armed but such as revoke exemptions, and goes on in any way: it may
be started and stopped, policies replaced, clocks set, and timers delivered however late, if only not
while they are armed; and timers can always be armed.

While it is ready, it remembers the number of a timer for the change between day and night that is
armed, or that has fired and was not heeded yet; while it is not ready, as after it was stopped, it
remembers none and none is armed.  All armed timers for that change have the number that is
remembered, so at most one is armed.

A timer for that change with any other number changes nothing.  And once a number was given and is
not remembered, as that of a timer which is on its way when the engine is stopped, its timer will
never have an effect however the run goes on, further starts included. -/
theorem one_day_night_timer {registry : Registry} {policy : Policy} {host : Host} {probe : Probe}
    {e : Engine} (hmade : Engine.create? registry policy host probe = .ok e)
    (hordered : host.timers.Ordered)
    (hrevokes : ∀ timer ∈ host.timers.pending, timer.task.isRevoke = true)
    (harming : host.timers.failing = false) {changes : List (State × State)} {run : EngineRun}
    (h : Course EngineRun.Punctual (.begin e) changes run) :
    (run.engine.ready = true → ∃ timer ∈ run.engine.host.timers.pending ++ run.fired,
      timer.task = .dayNightSwitch ∧ run.engine.dayNightTimer = some timer.id) ∧
    (run.engine.ready = false → run.engine.dayNightTimer = none ∧
      ∀ timer ∈ run.engine.host.timers.pending, timer.task ≠ .dayNightSwitch) ∧
    run.engine.uninit.ready = false ∧
    (∀ timer ∈ run.engine.host.timers.pending, timer.task = .dayNightSwitch →
      run.engine.dayNightTimer = some timer.id) ∧
    run.engine.host.timers.pending.countP (fun timer => timer.task = .dayNightSwitch) ≤ 1 ∧
    (∀ id, run.engine.dayNightTimer ≠ some id →
      run.engine.handle (.timer id .dayNightSwitch) = run.engine) ∧
    (∀ timer ∈ run.engine.host.timers.pending ++ run.fired,
      timer.id < run.engine.host.timers.nextId) ∧
    ∀ id < run.engine.host.timers.nextId, run.engine.dayNightTimer ≠ some id →
      ∀ {others : List (State × State)} {later : EngineRun},
        Course EngineRun.Punctual run others later →
        later.engine.handle (.timer id .dayNightSwitch) = later.engine := by
  have hstart : e.Regular True False [] :=
    Engine.regular_of_create hmade hordered hrevokes (fun _ => harming) False.elim
  obtain ⟨hrun, -⟩ := h.regular_of_punctual hstart
  refine ⟨fun hready => ?_, fun hready => ?_, hrun.uninit.2.2, hrun.sole, ?_,
    fun id hid => Engine.handle_dayNight_of_ne hid, fun timer hmem => ?_, ?_⟩
  · obtain ⟨id, hid⟩ := Option.isSome_iff_exists.1 (hrun.waits trivial hready)
    obtain ⟨timer, hmem, rfl, htask⟩ := hrun.awaited id hid
    exact ⟨timer, hmem, htask, hid⟩
  · have hnone : run.engine.dayNightTimer = none := (hrun.rests hready).dayNight
    refine ⟨hnone, fun timer hmem htask => ?_⟩
    have hsole := hrun.sole timer hmem htask
    rw [hnone] at hsole
    cases hsole
  · exact hrun.ordered.countP_le_one
      (fun timer hmem hkind => hrun.sole timer hmem (of_decide_eq_true hkind))
  · exact (List.mem_append.1 hmem).elim (hrun.ordered.counted timer) (hrun.given timer)
  · intro id hgiven hgone others later hlater
    obtain ⟨-, hrenews⟩ := hlater.regular_of_punctual hrun
    exact Engine.handle_dayNight_of_ne (hrenews.dayNight_ne hgiven hgone)

/-- The engine is started and the clock set; then a day goes by, and the engine is stopped before the
timer for the change between day and night, which has fired meanwhile, is heeded. -/
def EngineMove.wholeDay : List EngineMove :=
  [.init none, .act (.handle (.message (.event Action.timeChanged))), .advance 86400000,
    .act .uninit]

/-- The second timer is on its way when the engine is stopped.  When the engine was started anew the
third one counts, and the second one has no effect. -/
theorem day_night_timer_late_after_restart :
    let stopped := (EngineRun.begin (Engine.plain (Policy.default {}))).afterAll EngineMove.wholeDay
    let restarted := stopped.afterAll [.init none]
    stopped.fired.map ArmedTimer.id = [2] ∧ stopped.engine.dayNightTimer = none ∧
    restarted.engine.dayNightTimer = some 3 ∧
    restarted.engine.host.timers.pending.countP (fun timer => timer.task = .dayNightSwitch) = 1 ∧
    restarted.engine.handle (.timer 2 .dayNightSwitch) = restarted.engine := by
  intro stopped restarted
  have hstopped : Course EngineRun.Punctual (.begin (Engine.plain (Policy.default {}))) _ stopped :=
    Course.start.afterAll (by simp [EngineMove.wholeDay, EngineMove.IsSingle])
      (by simp [EngineMove.wholeDay, EngineRun.Punctual, EngineRun.Fires, EngineRun.handled?])
  have hrestarted : Course EngineRun.Punctual stopped _ restarted :=
    Course.start.afterAll (by simp [EngineMove.IsSingle])
      (by simp [EngineRun.Punctual, EngineRun.Fires, EngineRun.handled?])
  obtain ⟨-, -, -, -, -, -, -, hlate⟩ := one_day_night_timer (Engine.create?_plain rfl)
    ⟨.nil, List.forall_mem_nil _⟩ (List.forall_mem_nil _) rfl hstopped
  have hnone : stopped.engine.dayNightTimer = none := by decide +kernel
  exact ⟨by decide +kernel, hnone, by decide +kernel, by decide +kernel,
    hlate 2 (by decide +kernel) (by rw [hnone]; decide) hrestarted⟩

end DeviceStandby
