import DeviceStandby.Proofs.EngineMachine
import DeviceStandby.Proofs.Journey

/-!
# The strategies follow sleep

The strategies hear of changes of state only through the queue, after the machine has gone on.  But
what they will have become when they have heard of everything in the queue is always what the
machine is in need of (`Engine.Follows`): the configured strategies in sleep and in maintenance that
goes back to sleep, and none elsewhere (`Machine.followed`).  A task that is taken from the queue
makes no difference to this, and a change of the machine puts the message about it behind all
others.

For this messages must reach the queue, and must be handled in its order; and messages about the
state must come from the machine only (`EngineMove.Follows`).
-/

namespace DeviceStandby

lemma Message.int?_stateTransit (previous current : State) :
    (stateTransit previous current).int? "current_state" = some (current.index : Int) := by
  have hget : (stateTransit previous current).params.get? "current_state" =
      some (.nat current.index) := by
    simp [stateTransit, of, Table.ofList, Table.get?_insert]
  rw [int?, hget]
  cases current <;> rfl

lemma Admission.TellsLoss.silent {more : List Task} (h : TellsLoss more) :
    ∀ task ∈ more, task.tellsState = false := by
  rcases h with rfl | ⟨uid, name, mask, rfl⟩
  · exact List.forall_mem_nil _
  · exact List.forall_mem_singleton.2 rfl

/-! ## What the strategies come to -/

namespace Machine

variable {m : Machine} {changes : List (State × State)}

/-- The strategies that fit the state. -/
def followed (strategies : List String) (m : Machine) : List String :=
  if m.current = .sleep ∨ (m.current = .maintenance ∧ m.maintenanceOrigin = .sleep) then strategies
  else []

lemma followed_congr {strategies : List String} {after : Machine}
    (hcurrent : after.current = m.current)
    (horigin : m.current = .maintenance → after.maintenanceOrigin = m.maintenanceOrigin) :
    after.followed strategies = m.followed strategies := by
  unfold followed
  rw [hcurrent]
  by_cases hmaintenance : m.current = .maintenance
  · rw [horigin hmaintenance]
  · simp [hmaintenance]

/-- The strategies that fit the old state become those that fit the new one, when the change is
heard of. -/
lemma strategiesIn_followed {policy : Policy} {after : Machine}
    (horigin : after.current = .maintenance → after.maintenanceOrigin = m.current)
    (hchanged : after.current ≠ m.current) :
    strategiesIn policy (m.followed policy.strategies) after.current =
      after.followed policy.strategies := by
  unfold followed
  cases hcurrent : after.current with
  | working | dark | nap => simp [strategiesIn]
  | sleep => by_cases hempty : policy.strategies = [] <;> simp [strategiesIn, hempty]
  | maintenance =>
    rw [hcurrent] at hchanged horigin
    simp [strategiesIn, horigin rfl, hchanged.symm]

/-- A machine in maintenance was last seen to come from the state that it goes back to. -/
def Came (changes : List (State × State)) (m : Machine) : Prop :=
  m.current = .maintenance → changes.getLast? = some (m.maintenanceOrigin, .maintenance)

lemma Came.goes {σ : Type} {rig after : Rig σ} (h : rig.machine.Came changes)
    (hgoes : rig.Goes after) : after.machine.Came
      (changes ++ MachineRun.change rig.machine.current after.machine.current) := by
  intro hmaintenance
  unfold MachineRun.change
  rcases hgoes with ⟨hsame, horigin⟩ | ⟨hedge, horigin⟩
  · have hbefore : rig.machine.current = .maintenance := hsame.symm.trans hmaintenance
    rw [if_pos hsame.symm, List.append_nil, horigin hbefore]
    exact h hbefore
  · rw [if_neg hedge.ne, List.getLast?_concat, horigin hmaintenance, hmaintenance]

lemma Came.stay {after : Machine} (h : m.Came changes) (hmachine : after = m) :
    after.Came (changes ++ MachineRun.change m.current after.current) := by
  subst hmachine
  rw [MachineRun.change, if_pos rfl, List.append_nil]
  exact h

end Machine

namespace Engine

/-! ## What is in the queue -/

/-- Only the strategies of a policy matter to what becomes active. -/
lemma heeding_congr {policy other : Policy} (h : policy.strategies = other.strategies) :
    heeding policy = heeding other := by
  have hstates : strategiesIn policy = strategiesIn other := by
    funext active state
    cases state <;> simp [strategiesIn, h]
  funext active task
  cases task with
  | message body => simp [heeding, strategiesAfter, hstates]
  | timer | evaluationFinished | snapshot => rfl

lemma foldl_heeding_of_silent (policy : Policy) (active : List String) {tasks : List Task}
    (h : ∀ task ∈ tasks, task.tellsState = false) :
    tasks.foldl (heeding policy) active = active := by
  induction tasks with
  | nil => rfl
  | cons task tasks ih =>
    obtain ⟨hfirst, hothers⟩ := List.forall_mem_cons.1 h
    rw [List.foldl_cons, heeding_of_silent policy active hfirst, ih hothers]

lemma heeding_stateTransit (policy : Policy) (active : List String) (previous current : State) :
    heeding policy active (.message (.stateTransit previous current)) =
      strategiesIn policy active current := by
  have hkind : (Message.stateTransit previous current).kind = .stateTransit := rfl
  rw [heeding, strategiesAfter, if_pos hkind, Message.int?_stateTransit, Option.bind_some,
    State.ofIndex?_index]

/-- What the machine tells makes the strategies that fitted it before fit it again. -/
lemma foldl_heeding_tells {policy : Policy} {rig after : Rig Probe} {more : List Task}
    (h : rig.Tells after more) (hgoes : rig.Goes after)
    (hposting : rig.host.queue.failing = false) :
    more.foldl (heeding policy) (rig.machine.followed policy.strategies) =
      after.machine.followed policy.strategies := by
  have hheard : ∀ message, rig.host.heard message = [.message message] := by
    intro message
    unfold Host.heard
    rw [hposting, if_neg Bool.false_ne_true]
  rcases h.posted with ⟨hsame, hmore⟩ | ⟨hchanged, rfl⟩
  · have hsilent : ∀ task ∈ more, task.tellsState = false := by
      rcases hmore with rfl | ⟨previous, next, rfl⟩
      · exact List.forall_mem_nil _
      · rw [hheard]
        exact List.forall_mem_singleton.2 rfl
    rw [foldl_heeding_of_silent policy _ hsilent]
    rcases hgoes with ⟨-, horigin⟩ | ⟨hedge, -⟩
    · exact (Machine.followed_congr hsame horigin).symm
    · exact absurd hsame.symm hedge.ne
  · rw [hheard, List.foldl_cons, heeding_stateTransit, List.foldl_nil]
    rcases hgoes with ⟨hsame, -⟩ | ⟨-, horigin⟩
    · exact absurd hsame hchanged
    · exact Machine.strategiesIn_followed horigin hchanged

/-! ## Engines -/

/-- When everything in the queue has been heard of, the strategies will fit the state. -/
structure Follows (strategies : List String) (e : Engine) : Prop where
  ordered : e.Ordered False
  ready : e.ready = true
  posting : e.host.queue.failing = false
  configured : e.policy.strategies = strategies
  pending : e.host.queue.tasks.foldl (heeding e.policy) e.strategies =
    e.machine.followed strategies

namespace Follows

variable {strategies : List String} {changes : List (State × State)} {e next : Engine}

/-- Tasks that do not tell of the state may be added. -/
lemma beside {arms : ArmedTimer → Prop} {more : List Task} (h : e.Follows strategies)
    (hbeside : Beside arms e more next) (hsilent : ∀ task ∈ more, task.tellsState = false) :
    next.Follows strategies where
  ordered := h.ordered.beside hbeside
  ready := hbeside.ready.trans h.ready
  posting := hbeside.host.posting.trans h.posting
  configured := by rw [hbeside.policy, h.configured]
  pending := by
    rw [hbeside.host.posted, hbeside.policy, hbeside.strategies, hbeside.machine, List.foldl_append,
      foldl_heeding_of_silent _ _ hsilent, h.pending]

/-- A task may be handled, if the strategies will fit when they have heard of it first. -/
lemma handle {task : Task} (hordered : e.Ordered False) (hready : e.ready = true)
    (hposting : e.host.queue.failing = false) (hcame : e.machine.Came changes)
    (hpending : e.host.queue.tasks.foldl (heeding e.policy)
      (heeding e.policy e.strategies task) = e.machine.followed e.policy.strategies) :
    (e.handle task).Follows e.policy.strategies ∧
    (e.handle task).machine.Came (changes ++ MachineRun.change e.machine.current
      (e.handle task).machine.current) := by
  have hheeded := heeded_handle e task
  obtain ⟨probe, loss, hmachine, hwork, hloss⟩ := hheeded.work
  obtain ⟨-, told, htells⟩ := hordered.driven probe task
  have hgoes : (⟨e.machine, e.host, probe⟩ : Rig Probe).Goes (e.driven probe task) := by
    rw [driven_of_ready hready]
    refine Rig.goes_moved hordered.machine ?_
    cases task <;> trivial
  refine ⟨⟨hordered.handle task, hheeded.ready.trans hready, ?_, ?_, ?_⟩, ?_⟩
  · rw [hwork.posting, htells.worked.posting]
    exact hposting
  · rw [hheeded.policy]
  · rw [hwork.posted, htells.worked.posted, hheeded.policy, hheeded.strategies, if_pos hready,
      List.foldl_append, List.foldl_append, foldl_heeding_of_silent _ _ hloss.silent, hmachine]
    rw [hpending]
    exact foldl_heeding_tells htells hgoes hposting
  · rw [hmachine]
    exact Machine.Came.goes hcame hgoes

/-- A task that does not tell of the state may be handled out of turn. -/
lemma handle_silent {task : Task} (h : e.Follows strategies) (hcame : e.machine.Came changes)
    (hsilent : task.tellsState = false) :
    (e.handle task).Follows strategies ∧
    (e.handle task).machine.Came (changes ++ MachineRun.change e.machine.current
      (e.handle task).machine.current) := by
  obtain ⟨hordered, hready, hposting, rfl, hpending⟩ := h
  refine handle hordered hready hposting hcame ?_
  rw [heeding_of_silent _ _ hsilent]
  exact hpending

end Follows

end Engine

/-- What may happen while the strategies follow the state: the engine stays ready, the configured
strategies stay the same, messages can be posted, those about the state come from the machine. -/
def EngineMove.Follows (strategies : List String) : EngineMove → Prop
  | .act .uninit => False
  | .act (.reload policy) => policy.strategies = strategies
  | .act (.handle task) => task.tellsState = false
  | .act other => ∀ task ∈ other.injected, task.tellsState = false
  | .fail failing on => ¬ (failing = .post ∧ on = true)
  | _ => True

namespace Engine.Follows

variable {strategies : List String} {changes : List (State × State)} {e : Engine}

lemma act (h : e.Follows strategies) (hcame : e.machine.Came changes) {act : Act}
    (hact : act ≠ .awaitSnapshot) (hallowed : (EngineMove.act act).Follows strategies) :
    (e.act act).Follows strategies ∧
    (e.act act).machine.Came (changes ++ MachineRun.change e.machine.current
      (e.act act).machine.current) := by
  by_cases haside : act.IsAside
  · have hsilent : ∀ task ∈ act.injected, task.tellsState = false := by
      cases act with
      | uninit | reload | handle | handleNext | awaitSnapshot => exact haside.elim
      | operate | apply | unapply | allowList | restrictSet | submit | dispatch | report
      | reportDevice | receive => exact hallowed
    obtain ⟨more, hbeside, htells⟩ := beside_act e haside
    refine ⟨h.beside hbeside (fun task hmem => ?_), hcame.stay hbeside.machine⟩
    cases htold : task.tellsState with
    | false => rfl
    | true =>
      rw [hsilent task (htells task hmem htold)] at htold
      cases htold
  · cases act with
    | uninit => exact hallowed.elim
    | reload policy =>
      have hreloaded : ({ e with policy } : Engine).Follows strategies := by
        refine ⟨⟨h.ordered.machine, False.elim⟩, h.ready, h.posting, hallowed, ?_⟩
        have hsame : policy.strategies = e.policy.strategies := hallowed.trans h.configured.symm
        show e.host.queue.tasks.foldl (heeding policy) e.strategies = _
        rw [heeding_congr hsame]
        exact h.pending
      have harmed := beside_armDayNight ({ e with policy } : Engine)
      have hreload : e.act (.reload policy) = ({ e with policy } : Engine).armDayNight := by
        show e.reload policy = _
        rw [Engine.reload]
        exact if_pos h.ready
      rw [hreload]
      exact ⟨hreloaded.beside harmed (List.forall_mem_nil _), hcame.stay harmed.machine⟩
    | handle task => exact h.handle_silent hcame hallowed
    | handleNext =>
      rcases act_handleNext e with ⟨-, hsame⟩ | ⟨task, tasks, htasks, hnext⟩
      · rw [hsame]
        exact ⟨h, hcame.stay rfl⟩
      · obtain ⟨hordered, hready, hposting, rfl, hpending⟩ := h
        rw [hnext]
        rw [htasks, List.foldl_cons] at hpending
        exact handle (e := e.withTasks tasks) ⟨hordered.machine, False.elim⟩ hready hposting hcame
          hpending
    | awaitSnapshot => exact absurd rfl hact
    | operate | apply | unapply | allowList | restrictSet | submit | dispatch | report
    | reportDevice | receive => exact absurd trivial haside

/-- With every move the strategies go on to follow the state. -/
theorem after {run : EngineRun} (h : run.engine.Follows strategies)
    (hcame : run.engine.machine.Came changes) {move : EngineMove} (hsingle : move.IsSingle)
    (hallowed : move.Follows strategies) :
    (run.after move).engine.Follows strategies ∧
    (run.after move).engine.machine.Came (changes ++ MachineRun.change run.engine.machine.current
      (run.after move).engine.machine.current) := by
  cases move with
  | act act => exact h.act hcame (fun heq => by rw [heq] at hsingle; exact hsingle) hallowed
  | init running =>
    have hsame : (run.engine.init running).2 = run.engine := by
      rw [init_state, if_pos h.ready]
    show (run.engine.init running).2.Follows strategies ∧
      (run.engine.init running).2.machine.Came (changes ++ MachineRun.change _
        (run.engine.init running).2.machine.current)
    rw [hsame]
    exact ⟨h, hcame.stay rfl⟩
  | advance millis =>
    exact ⟨⟨⟨h.ordered.machine, False.elim⟩, h.ready, h.posting, h.configured, h.pending⟩,
      hcame.stay rfl⟩
  | heed timer =>
    exact h.handle_silent hcame
      (show (Task.timer timer.id timer.task).tellsState = false from rfl)
  | setWall moment =>
    exact ⟨⟨⟨h.ordered.machine, False.elim⟩, h.ready, h.posting, h.configured, h.pending⟩,
      hcame.stay rfl⟩
  | fail failing on =>
    have hqueue : (run.engine.host.setFailing failing on).queue = run.engine.host.queue := by
      cases failing with
      | post =>
        cases on with
        | true => exact absurd ⟨rfl, rfl⟩ hallowed
        | false =>
          rw [Host.setFailing, ← h.posting]
      | arm | acquire | release | load | save | audit => rfl
    refine ⟨⟨⟨h.ordered.machine, False.elim⟩, h.ready, ?_, h.configured, ?_⟩, hcame.stay rfl⟩
    · show (run.engine.host.setFailing failing on).queue.failing = false
      rw [hqueue]
      exact h.posting
    · show (run.engine.host.setFailing failing on).queue.tasks.foldl _ _ = _
      rw [hqueue]
      exact h.pending

lemma refusePhase (h : e.Follows strategies) (hcame : e.machine.Came changes) :
    (e.drive Rig.refusePhase).Follows strategies ∧
      (e.drive Rig.refusePhase).machine.Came changes := by
  refine ⟨⟨h.ordered.refusePhase, h.ready, ?_, h.configured, ?_⟩, ?_⟩
  · rw [drive_eq, Rig.refusePhase_queue]
    exact h.posting
  · rw [drive_eq, Rig.refusePhase_queue, Rig.refusePhase_machine]
    exact h.pending
  · rw [drive_eq, Rig.refusePhase_machine]
    exact hcame

/-- Nothing keeps the default plug-in from being brought up. -/
lemma rise_standard (hplugin : e.plugin = .standard) : e.rise = (true,
    ({ e.drive Rig.init with strategies := [], listener := e.listener.start } : Engine).armDayNight)
    := by
  simp [rise, bringUp, bringUpAll, laterRoles, note, failsAt, hplugin, drive_eq]

/-- With the default plug-in, starting makes the engine ready with a new machine and without
strategies, and posts nothing. -/
lemma init_standard (hplugin : e.plugin = .standard) (hready : e.ready = false)
    (running : Option Processes) :
    (e.init running).2.ready = true ∧ (e.init running).2.policy = e.policy ∧
    (e.init running).2.strategies = [] ∧
    (e.init running).2.machine = (Rig.init (⟨e.machine, e.host, e.probe⟩ : Rig Probe)).machine ∧
    Host.Worked (fun _ => True) e.host [] (e.init running).2.host := by
  have hstarted := Rig.worked_init (fun _ => True) (⟨e.machine, e.host, e.probe⟩ : Rig Probe)
  have harmed := beside_armDayNight
    ({ e.drive Rig.init with strategies := [], listener := e.listener.start } : Engine)
  have hrecovered := Admission.worked_recover
    ({ e.drive Rig.init with strategies := [], listener := e.listener.start } :
      Engine).armDayNight.toAdmission running
  rw [init_state, if_neg (by rw [hready]; exact Bool.false_ne_true), rise_standard hplugin]
  refine ⟨rfl, Admission.recover_policy _ running, rfl, rfl, ?_⟩
  exact ((hstarted.trans (harmed.host.weaken (fun _ _ => trivial))).trans hrecovered).still
    (.audit _ _)

/-- A ready period begins in working, and working has no strategies. -/
lemma init (hplugin : e.plugin = .standard) (hready : e.ready = false)
    (hidle : e.host.queue.tasks = []) (hposting : e.host.queue.failing = false)
    (running : Option Processes) : (e.init running).2.Follows e.policy.strategies := by
  obtain ⟨hstarted, hpolicy, hstrategies, hmachine, hwork⟩ := init_standard hplugin hready running
  refine ⟨⟨?_, False.elim⟩, hstarted, hwork.posting.trans hposting, by rw [hpolicy], ?_⟩
  · rw [hmachine]
    exact Rig.sound_init _
  · rw [hwork.posted, hidle, hstrategies, hmachine]
    rfl

end Engine.Follows

/-- The strategies follow wherever a course gets. -/
lemma Course.follows {strategies : List String} {start run : EngineRun}
    {changes : List (State × State)}
    (h : Course (fun _ move => move.Follows strategies) start changes run)
    (hstart : start.engine.Follows strategies) (hcame : start.engine.machine.Came []) :
    run.engine.Follows strategies ∧ run.engine.machine.Came changes := by
  induction h with
  | start => exact ⟨hstart, hcame⟩
  | move _ single allowed ih => exact ih.1.after ih.2 single allowed
  | refusePhase _ ih => exact ih.1.refusePhase ih.2

/-- The strategies follow sleep.  When an engine with the default plug-in is started with an empty
queue, then as long as it stays ready, the configured strategies stay the same, messages can be
posted and those about the state come from the machine only: whenever the queue is empty, the
configured strategies are active in sleep and in maintenance that was entered from sleep, and none
are active elsewhere. -/
theorem strategies_follow_sleep {e : Engine} (hplugin : e.plugin = .standard)
    (hready : e.ready = false) (hidle : e.host.queue.tasks = [])
    (hposting : e.host.queue.failing = false) (running : Option Processes)
    {changes : List (State × State)} {run : EngineRun}
    (h : Course (fun _ move => move.Follows e.policy.strategies) (.begin (e.init running).2)
      changes run) (hdrained : run.engine.host.queue.tasks = []) :
    run.engine.strategies =
      if run.engine.machine.current = .sleep ∨
        (run.engine.machine.current = .maintenance ∧
          changes.getLast? = some (.sleep, .maintenance))
      then e.policy.strategies else [] := by
  have hworking : (e.init running).2.machine.Came [] := by
    intro hmaintenance
    rw [(Engine.Follows.init_standard hplugin hready running).2.2.2.1] at hmaintenance
    cases hmaintenance
  obtain ⟨hfollows, hcame⟩ :=
    h.follows (.init hplugin hready hidle hposting running) hworking
  have horigin : run.engine.machine.current = .maintenance →
      (run.engine.machine.maintenanceOrigin = .sleep ↔
        changes.getLast? = some (.sleep, .maintenance)) := by
    intro hmaintenance
    rw [hcame hmaintenance]
    simp
  have hpending := hfollows.pending
  rw [hdrained] at hpending
  refine hpending.trans ?_
  unfold Machine.followed
  exact if_congr (or_congr_right (and_congr_right horigin)) rfl rfl

/-! ## Maintenance from nap and from sleep -/

/-- One strategy is configured, and nap is switched on or off. -/
def ConfigFile.dozing (nap : Bool) : ConfigFile where
  format := 1
  strategies := ["doze"]
  switches := { nap := some nap }

/-- A new engine of that kind, before it is started. -/
def Engine.dozing (nap : Bool) : Engine := .plain (.ofFile {} (.dozing nap))

/-- The screen is switched off; the device goes dark, on to another state and to maintenance when
the timer of that state is due, and the queue is worked off. -/
def EngineMove.toMaintenance (source : State) (due : Int) : List EngineMove :=
  [.act (.receive (.screenStatus false)), .act .handleNext,
    .advance 300000, .heed ⟨2, 300000, .transitNextState .dark⟩,
    .advance 3600000, .heed ⟨3, due, .transitNextState source⟩,
    .act .handleNext, .act .handleNext, .act .handleNext]

/-- In maintenance the strategy is active if it was entered from sleep, but not if from nap. -/
theorem strategies_in_maintenance :
    let begun (nap : Bool) := EngineRun.begin ((Engine.dozing nap).init none).2
    let napped := (begun true).afterAll (EngineMove.toMaintenance .nap 1200000)
    let slept := (begun false).afterAll (EngineMove.toMaintenance .sleep 3900000)
    (napped.engine.machine.current = .maintenance ∧ napped.engine.strategies = []) ∧
    (slept.engine.machine.current = .maintenance ∧ slept.engine.strategies = ["doze"]) := by
  intro begun napped slept
  have hcourse : ∀ (nap : Bool) (source : State) (due : Int),
      Course (fun _ move => move.Follows (Engine.dozing nap).policy.strategies) (begun nap)
        ([] ++ (begun nap).changedBy (EngineMove.toMaintenance source due))
        ((begun nap).afterAll (EngineMove.toMaintenance source due)) := by
    intro nap source due
    refine Course.start.afterAll ?_ ?_
    · simp [EngineMove.toMaintenance, EngineMove.IsSingle]
    · simp [EngineMove.toMaintenance, EngineMove.Follows, Engine.Act.injected]
  refine ⟨⟨by decide +kernel, ?_⟩, by decide +kernel, ?_⟩
  · rw [strategies_follow_sleep rfl rfl rfl rfl none (hcourse true .nap 1200000)
      (by decide +kernel)]
    decide +kernel
  · rw [strategies_follow_sleep rfl rfl rfl rfl none (hcourse false .sleep 3900000)
      (by decide +kernel)]
    decide +kernel

end DeviceStandby
