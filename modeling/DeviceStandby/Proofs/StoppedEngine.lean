import DeviceStandby.Proofs.FollowedStrategies
import DeviceStandby.Proofs.TendedEngines

/-!
# A stopped engine is inert

To stop an engine ends all that it has begun, whatever its machine was doing: of its timers those
only are left that revoke exemptions, the wake lock is let go, and no strategy is active.

As long as an engine is not ready, because it was stopped or never started, a task that it handles
changes nothing.  The timers that revoke exemptions are the exception: the exemption table is there
all the time, and they do what they do in an engine that is ready.
-/

namespace DeviceStandby

/-- Whether the task is a timer that revokes exemptions. -/
def Task.isRevoke : Task → Bool
  | .timer _ task => task.isRevoke
  | .message _ | .evaluationFinished _ | .snapshot => false

namespace Engine

variable {e : Engine}

/-- An engine that is not ready changes nothing but that it may forget the number of a timer. -/
lemma handle_inert (hready : e.ready = false) {task : Task} (hrevoke : task.isRevoke = false) :
    e.handle task = e ∨ e.handle task = { e with dayNightTimer := none } := by
  rw [handle_of_not_ready hready]
  split
  · simp [Task.isRevoke, TimerTask.isRevoke] at hrevoke
  · split
    · exact Or.inr rfl
    · exact Or.inl rfl
  · exact Or.inl rfl

/-- If there is no number to forget, it changes nothing at all. -/
lemma handle_of_dormant (hready : e.ready = false) (hdormant : e.Dormant) {task : Task}
    (hrevoke : task.isRevoke = false) : e.handle task = e := by
  rcases handle_inert hready hrevoke with hsame | hforgot
  · exact hsame
  · rw [hforgot, ← hdormant.dayNight]

/-- A regular engine that is not ready has no timers armed but such as revoke exemptions. -/
lemma Regular.isRevoke_of_mem {armable lockable : Prop} {fired : List ArmedTimer}
    (h : e.Regular armable lockable fired) (hready : e.ready = false) {timer : ArmedTimer}
    (hmem : timer ∈ e.host.timers.pending) : timer.task.isRevoke = true := by
  have hdormant := h.rests hready
  have hforeign := h.owns.unarmed hdormant.state hdormant.phase timer hmem
  cases htask : timer.task with
  | transitNextState | transitNextPhase =>
    rw [htask] at hforeign
    cases hforeign
  | revokeExpired => rfl
  | dayNightSwitch =>
    have hsole := h.sole timer hmem htask
    rw [hdormant.dayNight] at hsole
    cases hsole

end Engine

/-- A new engine finds no timers armed but such as revoke exemptions, and goes on in any way; timers
are handed to it only when they are not armed any more.

When it is stopped then, wherever it has got, no other timers are armed either: none for the next
state or phase, and none for the change between day and night.  The machine does not hold the wake
lock, which was let go as often as it was taken if it could always be taken; and no strategy is
active.  Whatever tasks it handles then, it stays as it is, but for timers that revoke exemptions.

Indeed no engine that is not ready changes by handling another task, but that it forgets the number
that it may remember of a timer for the change between day and night.  And a timer that revokes
exemptions revokes them then just as it would in an engine that is ready, and nothing else. -/
theorem stopped_engine_is_inert {registry : Registry} {policy : Policy} {host : Host} {probe : Probe}
    {e : Engine} (hmade : Engine.create? registry policy host probe = .ok e)
    (hordered : host.timers.Ordered)
    (hrevokes : ∀ timer ∈ host.timers.pending, timer.task.isRevoke = true)
    {Allows : EngineRun → EngineMove → Prop} (hfires : ∀ run move, Allows run move → run.Fires move)
    {changes : List (State × State)} {run : EngineRun} (h : Course Allows (.begin e) changes run) :
    let stopped := run.engine.uninit
    (stopped.ready = false ∧
      (∀ timer ∈ stopped.host.timers.pending, timer.task.isRevoke = true) ∧
      stopped.machine.lockHeld = false ∧
      (host.wakeLock = {} → (∀ run move, Allows run move → move ≠ .fail .acquire true) →
        stopped.host.wakeLock.acquires = stopped.host.wakeLock.releases) ∧
      stopped.strategies = [] ∧
      ∀ task : Task, task.isRevoke = false → stopped.handle task = stopped) ∧
    ∀ idle : Engine, idle.ready = false →
      (∀ task : Task, task.isRevoke = false →
        idle.handle task = idle ∨ idle.handle task = { idle with dayNightTimer := none }) ∧
      ∀ id uid name mask,
        idle.handle (.timer id (.revokeExpired uid name mask)) =
          idle.withAdmission (idle.toAdmission.revoke uid name mask false) ∧
        ∀ busy : Engine, busy.ready = true → busy.toAdmission = idle.toAdmission →
          (busy.handle (.timer id (.revokeExpired uid name mask))).toAdmission =
            (idle.handle (.timer id (.revokeExpired uid name mask))).toAdmission := by
  intro stopped
  let lockable := host.wakeLock = {} ∧ ∀ run move, Allows run move → move ≠ .fail .acquire true
  have hstart : e.Regular False lockable [] :=
    Engine.regular_of_create hmade hordered hrevokes False.elim And.left
  obtain ⟨hrun, -⟩ : run.engine.Regular False lockable run.fired ∧ _ :=
    h.regular hfires False.elim And.right hstart
  obtain ⟨hregular, -, hready⟩ : stopped.Regular False lockable run.fired ∧ _ := hrun.uninit
  have hdormant : stopped.Dormant := hregular.rests hready
  refine ⟨⟨hready, fun timer hmem => hregular.isRevoke_of_mem hready hmem, hdormant.lock,
    fun hnew hworks => ?_, hdormant.strategies,
    fun task hrevoke => Engine.handle_of_dormant hready hdormant hrevoke⟩,
    fun idle hidle => ⟨fun task hrevoke => Engine.handle_inert hidle hrevoke,
      fun id uid name mask => ⟨rfl, fun busy _ hsame => ?_⟩⟩⟩
  · have hcalls := (hregular.balanced ⟨hnew, hworks⟩).calls
    have hfree : stopped.rig.machine.lockHeld = false := hdormant.lock
    rw [hfree] at hcalls
    simpa [Engine.rig] using hcalls
  · show busy.toAdmission.revoke uid name mask false = idle.toAdmission.revoke uid name mask false
    rw [hsame]

/-- The screen is switched off, and the device has been dark for five minutes. -/
def EngineRun.darkLongEnough : EngineRun :=
  (begin (Engine.dozing false)).afterAll
    [.init none, .act (.handle (.message (.event Action.screenOff))), .advance 300000]

/-- It falls asleep, and the strategies hear of it. -/
def EngineRun.asleep : EngineRun :=
  (darkLongEnough.after (.heed ⟨2, 300000, .transitNextState .dark⟩)).after
    (.act (.handle (.message (.stateTransit .dark .sleep))))

/-- The device is asleep, in the middle of its phases.  When the engine is stopped all of it ends, and
the timers that were armed have no effect any more. -/
theorem engine_stopped_asleep :
    (EngineRun.asleep.engine.host.timers.pending.map ArmedTimer.id = [1, 3, 4] ∧
      EngineRun.asleep.engine.machine.lockHeld = true ∧
      EngineRun.asleep.engine.strategies = ["doze"]) ∧
    (∀ timer ∈ EngineRun.asleep.engine.uninit.host.timers.pending,
      timer.task.isRevoke = true) ∧
    EngineRun.asleep.engine.uninit.machine.lockHeld = false ∧
    EngineRun.asleep.engine.uninit.host.wakeLock.acquires =
      EngineRun.asleep.engine.uninit.host.wakeLock.releases ∧
    EngineRun.asleep.engine.uninit.strategies = [] ∧
    EngineRun.asleep.engine.uninit.handle (.timer 3 (.transitNextState .sleep)) =
      EngineRun.asleep.engine.uninit := by
  let Allows (run : EngineRun) (move : EngineMove) : Prop :=
    run.Fires move ∧ move ≠ .fail .acquire true
  have hdark : Course Allows (.begin (Engine.dozing false)) _ EngineRun.darkLongEnough :=
    Course.start.afterAll (by simp [EngineMove.IsSingle])
      (by simp [Allows, EngineRun.Fires, EngineRun.handled?])
  have hfires : Allows EngineRun.darkLongEnough (.heed ⟨2, 300000, .transitNextState .dark⟩) := by
    refine ⟨?_, by simp⟩
    rintro id task ⟨⟩
    decide +kernel
  have htold : Allows (EngineRun.darkLongEnough.after (.heed ⟨2, 300000, .transitNextState .dark⟩))
      (.act (.handle (.message (.stateTransit .dark .sleep)))) := by
    refine ⟨?_, by simp⟩
    rintro id task ⟨⟩
  have hheeded := hdark.move (show EngineMove.IsSingle (.heed _) from trivial) hfires
  have hasleep := hheeded.move (show EngineMove.IsSingle (.act (.handle _)) from trivial) htold
  obtain ⟨⟨-, htimers, hlock, hcalls, hstrategies, hinert⟩, -⟩ := stopped_engine_is_inert
    (Engine.create?_plain rfl) ⟨.nil, List.forall_mem_nil _⟩ (List.forall_mem_nil _)
    (fun _ _ hallowed => hallowed.1) hasleep
  exact ⟨by decide +kernel, htimers, hlock, hcalls rfl (fun _ _ hallowed => hallowed.2), hstrategies,
    hinert _ rfl⟩

end DeviceStandby
