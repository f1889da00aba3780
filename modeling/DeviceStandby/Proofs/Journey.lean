import DeviceStandby.Proofs.MachineRuns
import Mathlib.Data.List.Chain

/-!
# The way through the states

The state changes along a few edges only (`Edge`), and maintenance goes back to where it was entered
from.  `Journey` puts edges together to the way from the start of a machine to its present state.

What was told and what was put on record of it are the same changes in the same order
(`Rig.Reports`), as long as the queue takes every message and the trail every event.
-/

namespace DeviceStandby

/-- Whether the move neither starts nor stops the machine, and lets reports through. -/
def MachineMove.KeepsReports {σ : Type} (move : MachineMove σ) : Prop :=
  move.Continues ∧ move ≠ .host (.fail .post true) ∧ move ≠ .host (.fail .audit true)

/-! ## Edges -/

/-- The changes there can be, out of a state that was entered from `before`. -/
inductive Edge : Option State → State → State → Prop where
  | goDark {before : Option State} : Edge before .working .dark
  | darkToNap {before : Option State} : Edge before .dark .nap
  | darkToSleep {before : Option State} : Edge before .dark .sleep
  | napToMaintenance {before : Option State} : Edge before .nap .maintenance
  | napToSleep {before : Option State} : Edge before .nap .sleep
  | sleepToMaintenance {before : Option State} : Edge before .sleep .maintenance
  | backToNap : Edge (some .nap) .maintenance .nap
  | backToSleep : Edge (some .sleep) .maintenance .sleep
  | wakeUp {before : Option State} {source : State} (asleep : source ≠ .working) :
      Edge before source .working

/-- The changes lead from working to a state, and it was entered from `before`. -/
inductive Journey : List (State × State) → Option State → State → Prop where
  | start : Journey [] none .working
  | change {changes : List (State × State)} {before : Option State} {source target : State}
      (journey : Journey changes before source) (edge : Edge before source target) :
      Journey (changes ++ [(source, target)]) (some source) target

namespace Edge

variable {before other : Option State} {source target : State}

/-- Where a state was entered from matters for maintenance only. -/
lemma congr (h : Edge before source target) (hsame : source = .maintenance → before = other) :
    Edge other source target := by
  cases h with
  | goDark => exact goDark
  | darkToNap => exact darkToNap
  | darkToSleep => exact darkToSleep
  | napToMaintenance => exact napToMaintenance
  | napToSleep => exact napToSleep
  | sleepToMaintenance => exact sleepToMaintenance
  | backToNap => exact hsame rfl ▸ backToNap
  | backToSleep => exact hsame rfl ▸ backToSleep
  | wakeUp asleep => exact wakeUp asleep

lemma ne (h : Edge before source target) : source ≠ target := by
  cases h with
  | wakeUp asleep => exact asleep
  | _ => decide

end Edge

/-- A journey begins in working, each change begins where the one before has led, and the last one
has led to where the journey is. -/
lemma Journey.chained {changes : List (State × State)} {before : Option State} {current : State}
    (h : Journey changes before current) :
    (∀ first ∈ changes.head?, first.1 = .working) ∧
    changes.IsChain (fun earlier later => earlier.2 = later.1) ∧
    (changes.getLast?.map (·.2)).getD .working = current := by
  induction h with
  | start => exact ⟨fun first hfirst => (by cases hfirst), .nil, rfl⟩
  | @change changes before source target journey edge ih =>
    obtain ⟨hfirst, hchain, hlast⟩ := ih
    refine ⟨?_, ?_, ?_⟩
    · cases changes with
      | nil =>
        intro first hmem
        obtain rfl : (source, target) = first := Option.some.inj hmem
        exact hlast.symm
      | cons head rest => exact hfirst
    · refine List.isChain_append.2 ⟨hchain, .singleton _, fun earlier hearlier later hlater => ?_⟩
      obtain rfl : (source, target) = later := Option.some.inj hlater
      rw [Option.mem_def.1 hearlier] at hlast
      exact hlast
    · rw [List.getLast?_append]
      rfl

/-- A timer or an answer leads along an edge. -/
lemma Machine.Leads.edge {m : Machine} {next : State} (h : m.Leads next) :
    Edge (some m.maintenanceOrigin) m.current next := by
  unfold Leads at h
  cases hcurrent : m.current with
  | working =>
    rw [hcurrent] at h
    exact h.elim
  | dark =>
    rw [hcurrent] at h
    rcases h with rfl | rfl
    · exact .darkToNap
    · exact .darkToSleep
  | nap =>
    rw [hcurrent] at h
    rcases h with rfl | rfl
    · exact .napToMaintenance
    · exact .napToSleep
  | maintenance =>
    rw [hcurrent] at h
    obtain ⟨horigin, rfl | rfl⟩ := h
    · exact horigin ▸ .backToNap
    · exact horigin ▸ .backToSleep
  | sleep =>
    rw [hcurrent] at h
    obtain rfl : next = .maintenance := h
    exact .sleepToMaintenance

/-! ## Changes of state -/

namespace Rig

variable {σ : Type} {policy : Policy} {rig after : Rig σ}

/-- The machine is in the same state, and if that is maintenance goes back to the same one; or it
has gone along an edge, and if that led to maintenance goes back to where it was. -/
def Goes (rig after : Rig σ) : Prop :=
  (after.machine.current = rig.machine.current ∧
    (rig.machine.current = .maintenance →
      after.machine.maintenanceOrigin = rig.machine.maintenanceOrigin)) ∨
  (Edge (some rig.machine.maintenanceOrigin) rig.machine.current after.machine.current ∧
    (after.machine.current = .maintenance →
      after.machine.maintenanceOrigin = rig.machine.current))

lemma goes_of_eq (hcurrent : after.machine.current = rig.machine.current)
    (horigin : after.machine.maintenanceOrigin = rig.machine.maintenanceOrigin) : rig.Goes after :=
  Or.inl ⟨hcurrent, fun _ => horigin⟩

lemma Entered.goes {before : Rig σ} {next : State} (h : Entered policy next before after)
    (hcurrent : before.machine.current = rig.machine.current)
    (horigin : before.machine.maintenanceOrigin = rig.machine.maintenanceOrigin)
    (hedge : next = rig.machine.current ∨
      Edge (some rig.machine.maintenanceOrigin) rig.machine.current next) : rig.Goes after := by
  have hafter := h.origin
  rw [Machine.nextOrigin, hcurrent, horigin] at hafter
  rw [Goes, h.current]
  by_cases hsame : next = rig.machine.current
  · refine Or.inl ⟨hsame, fun hmaintenance => ?_⟩
    rw [hafter, if_pos hmaintenance, ite_self]
  · refine Or.inr ⟨hedge.resolve_left hsame, fun hmaintenance => ?_⟩
    rw [hafter, if_pos hmaintenance, if_neg (hmaintenance ▸ Ne.symm hsame)]

lemma goes_enterOrBlock {before : Rig σ} {next : State}
    (hcurrent : before.machine.current = rig.machine.current)
    (horigin : before.machine.maintenanceOrigin = rig.machine.maintenanceOrigin)
    (hedge : next = rig.machine.current ∨
      Edge (some rig.machine.maintenanceOrigin) rig.machine.current next) :
    rig.Goes (before.enterOrBlock policy next) := by
  rcases enterOrBlock_cases policy next before with ⟨-, -, hrefused⟩ | hentered
  · rw [hrefused, Goes, block_machine]
    exact Or.inl ⟨hcurrent, fun _ => horigin⟩
  · exact hentered.goes hcurrent horigin hedge

/-- With every step the machine goes along an edge, or nowhere. -/
lemma Step.goes {delivery : Delivery}
    (hstep : Step policy rig delivery after) : rig.Goes after := by
  cases hstep with
  | rest => exact goes_of_eq rfl rfl
  | wake constraint =>
    refine (entered_working policy _).goes rfl rfl ?_
    by_cases hworking : rig.machine.current = .working
    · exact Or.inl hworking.symm
    · exact Or.inr (.wakeUp hworking)
  | dark idle =>
    simp only [mayGoDark, Bool.and_eq_true, decide_eq_true_eq] at idle
    refine goes_enterOrBlock rfl rfl (Or.inr ?_)
    rw [idle.1.1]
    exact .goDark
  | retry blocked =>
    rcases retry_cases policy rig with ⟨-, hrefused⟩ | hentered
    · rw [hrefused]
      exact goes_of_eq rfl rfl
    · exact hentered.goes rfl rfl (Or.inl rfl)
  | depart constraint ready leads =>
    obtain ⟨hmachine, -⟩ := ready_frame ready
    refine goes_enterOrBlock ?_ ?_ (Or.inr leads.edge)
    · rw [hmachine]
    · rw [hmachine]
  | refuse constraint ready leads asked =>
    obtain ⟨hmachine, -⟩ := ready_frame ready
    rw [Goes, block_machine, hmachine]
    exact Or.inl ⟨rfl, fun _ => rfl⟩
  | await constraint ready leads asked unblocked =>
    obtain ⟨hmachine, -⟩ := ready_frame (Or.inr ready)
    rw [Goes, hmachine]
    exact Or.inl ⟨rfl, fun _ => rfl⟩
  | phase constraint ahead =>
    rw [Goes, (settled_enterPhase _ _).machine]
    exact Or.inl ⟨rfl, fun _ => rfl⟩
  | awaitPhase constraint ahead => exact goes_of_eq rfl rfl
  | endPhases constraint ahead =>
    rw [Goes, releaseLock_machine]
    exact Or.inl ⟨rfl, fun _ => rfl⟩

/-! ## Reports of changes -/

/-- The messages about changes of state among the tasks. -/
def transits (tasks : List Task) : List Task :=
  tasks.filter (fun task => match task with
    | .message message => message.kind = .stateTransit
    | _ => false)

/-- The message about a change. -/
def toldChange (change : State × State) : Task :=
  .message (.stateTransit change.1 change.2)

/-- The record of a change. -/
def recordedChange (change : State × State) : AuditEvent :=
  .stateTransited change.1 change.2

/-- Messages can be posted and events put on record. -/
structure Reporting (host : Host) : Prop where
  posting : host.queue.failing = false
  auditing : host.store.failAudit = false

/-- The changes were told and put on record, and no others. -/
structure Reports (changes : List (State × State)) (host after : Host) : Prop where
  told : transits after.queue.tasks = transits host.queue.tasks ++ changes.map toldChange
  recorded : after.store.events = host.store.events ++ changes.map recordedChange
  reporting : Reporting after

lemma reports_nil (h : Reporting rig.host) (hqueue : after.host.queue = rig.host.queue)
    (hstore : after.host.store = rig.host.store) : Reports [] rig.host after.host := by
  refine ⟨?_, ?_, ?_, ?_⟩
  · rw [hqueue, List.map_nil, List.append_nil]
  · rw [hstore, List.map_nil, List.append_nil]
  · rw [hqueue]
    exact h.posting
  · rw [hstore]
    exact h.auditing

lemma Entered.reports {before : Rig σ} {next : State} (h : Entered policy next before after)
    (hreporting : Reporting rig.host)
    (hcurrent : before.machine.current = rig.machine.current)
    (hqueue : before.host.queue = rig.host.queue) (hstore : before.host.store = rig.host.store) :
    Reports (MachineRun.change rig.machine.current after.machine.current) rig.host after.host := by
  have hafterQueue := h.queue
  have hafterStore := h.store
  unfold MachineRun.change
  rw [hcurrent] at hafterQueue hafterStore
  rw [h.current]
  split
  · rename_i hsame
    rw [if_pos hsame] at hafterQueue hafterStore
    exact reports_nil hreporting (hafterQueue.trans hqueue) (hafterStore.trans hstore)
  · rename_i hnew
    rw [if_neg hnew] at hafterQueue hafterStore
    have hposting : before.host.queue.failing = false := by rw [hqueue, hreporting.posting]
    have hauditing : before.host.store.failAudit = false := by rw [hstore, hreporting.auditing]
    refine ⟨?_, ?_, ?_, ?_⟩
    · rw [hafterQueue, Host.announce_tasks _ _ hposting, hqueue]
      exact List.filter_append ..
    · rw [hafterStore, Host.audit_events, hauditing, hstore]
      rfl
    · rw [hafterQueue, Host.announce_failing, hposting]
    · rw [hafterStore, Host.audit_failAudit, hauditing]

lemma reports_same (h : Reporting rig.host)
    (hcurrent : after.machine.current = rig.machine.current)
    (hqueue : after.host.queue = rig.host.queue) (hstore : after.host.store = rig.host.store) :
    Reports (MachineRun.change rig.machine.current after.machine.current) rig.host after.host := by
  rw [MachineRun.change, if_pos hcurrent.symm]
  exact reports_nil h hqueue hstore

lemma reports_enterOrBlock {before : Rig σ} (next : State) (h : Reporting rig.host)
    (hcurrent : before.machine.current = rig.machine.current)
    (hqueue : before.host.queue = rig.host.queue) (hstore : before.host.store = rig.host.store) :
    Reports
      (MachineRun.change rig.machine.current (before.enterOrBlock policy next).machine.current)
      rig.host (before.enterOrBlock policy next).host := by
  rcases enterOrBlock_cases policy next before with ⟨-, -, hrefused⟩ | hentered
  · rw [hrefused]
    refine reports_same h ?_ ?_ ?_
    · rw [block_machine]
      exact hcurrent
    · rw [block_queue, cancelTimers_queue, hqueue]
    · rw [block_store, cancelTimers_store, hstore]
  · exact hentered.reports h hcurrent hqueue hstore

/-- The message about a phase is not one about a state. -/
lemma transits_announce_phase (host : Host) (state : State) (previous next : Nat) :
    transits (host.announce (.phaseTransit state previous next)).queue.tasks =
      transits host.queue.tasks := by
  unfold Host.announce Host.post
  split
  · rfl
  · exact (List.filter_append ..).trans (List.append_nil _)

/-- Every step reports the change of state that it makes. -/
lemma Step.reports {delivery : Delivery}
    (hstep : Step policy rig delivery after) (h : Reporting rig.host) :
    Reports (MachineRun.change rig.machine.current after.machine.current) rig.host after.host := by
  cases hstep with
  | rest => exact reports_same h rfl rfl rfl
  | wake constraint => exact (entered_working policy _).reports h rfl rfl rfl
  | dark idle => exact reports_enterOrBlock .dark h rfl rfl rfl
  | retry blocked =>
    rcases retry_cases policy rig with ⟨-, hrefused⟩ | hentered
    · rw [hrefused]
      exact reports_same h rfl rig.cancelTimers_queue rig.cancelTimers_store
    · exact hentered.reports h rfl rfl rfl
  | depart constraint ready leads =>
    obtain ⟨hmachine, -, hqueue, hstore⟩ := ready_frame ready
    exact reports_enterOrBlock _ h (by rw [hmachine]) hqueue hstore
  | refuse constraint ready leads asked =>
    obtain ⟨hmachine, -, hqueue, hstore⟩ := ready_frame ready
    refine reports_same h ?_ ?_ ?_
    · rw [block_machine, hmachine]
    · rw [block_queue, hqueue]
    · rw [block_store, hstore]
  | await constraint ready leads asked unblocked =>
    obtain ⟨hmachine, -, hqueue, hstore⟩ := ready_frame (Or.inr ready)
    exact reports_same h (by rw [hmachine]) hqueue hstore
  | phase constraint ahead =>
    have hsettled := settled_enterPhase (rig.machine.phase + 1) (rig.lulled constraint)
    have hcurrent : rig.machine.current =
        (enterPhase (rig.machine.phase + 1) (rig.lulled constraint)).machine.current := by
      rw [hsettled.machine]
      rfl
    rw [MachineRun.change, if_pos hcurrent]
    refine ⟨?_, ?_, ?_, ?_⟩
    · rw [hsettled.queue, phased, transits_announce_phase, List.map_nil, List.append_nil]
      rfl
    · rw [hsettled.store, phased, Host.announce_store, List.map_nil, List.append_nil]
      rfl
    · rw [hsettled.queue, phased, Host.announce_failing]
      exact h.posting
    · rw [hsettled.store, phased, Host.announce_store]
      exact h.auditing
  | awaitPhase constraint ahead => exact reports_same h rfl rfl rfl
  | endPhases constraint ahead =>
    refine reports_same h ?_ (releaseLock_queue _) (releaseLock_store _)
    rw [releaseLock_machine]
    rfl

/-! ## Runs -/

variable {judge : Constraint σ}

/-- Whatever happens, the machine goes along an edge, or nowhere. -/
lemma goes_moved (h : rig.machine.Sound) {move : MachineMove σ} (hmove : move.Continues) :
    rig.Goes (rig.moved judge policy move) := by
  cases move with
  | handle message => exact (step_handleEvent judge policy message rig).goes
  | deliver id task => exact (step_onTimer judge policy h id task).goes
  | answer passed => exact (step_endEvaluation policy h passed).goes
  | refusePhase =>
    rw [moved, Goes, refusePhase_machine]
    exact Or.inl ⟨rfl, fun _ => rfl⟩
  | host | reload | think => exact goes_of_eq rfl rfl
  | init | uninit => exact absurd hmove id

/-- Whatever happens, the change of state is reported. -/
lemma reports_moved (judge : Constraint σ) (policy : Policy) (h : rig.machine.Sound)
    (hreporting : Reporting rig.host) {move : MachineMove σ} (hmove : move.KeepsReports) :
    Reports (MachineRun.change rig.machine.current (rig.moved judge policy move).machine.current)
      rig.host (rig.moved judge policy move).host := by
  obtain ⟨hcontinues, hpost, haudit⟩ := hmove
  cases move with
  | handle message => exact (step_handleEvent judge policy message rig).reports hreporting
  | deliver id task => exact (step_onTimer judge policy h id task).reports hreporting
  | answer passed => exact (step_endEvaluation policy h passed).reports hreporting
  | refusePhase =>
    refine reports_same hreporting ?_ rig.refusePhase_queue rig.refusePhase_store
    rw [moved, refusePhase_machine]
  | host move =>
    have hsame : MachineRun.change rig.machine.current
        (rig.moved judge policy (.host move)).machine.current = [] := if_pos rfl
    rw [hsame]
    refine ⟨?_, ?_, ?_, ?_⟩
    · show transits (rig.host.moved move).queue.tasks = _
      rw [Host.moved_tasks, List.map_nil, List.append_nil]
    · show (rig.host.moved move).store.events = _
      rw [Host.moved_events, List.map_nil, List.append_nil]
    · exact Host.moved_posting hreporting.posting (fun heq => hpost (congrArg _ heq))
    · cases move with
      | advance | sense | setWall => exact hreporting.auditing
      | fail failing on =>
        cases failing with
        | audit =>
          cases on with
          | true => exact absurd rfl haudit
          | false => rfl
        | arm | acquire | release | load | save | post => exact hreporting.auditing
  | reload | think => exact reports_same hreporting rfl rfl rfl
  | init | uninit => exact absurd hcontinues id

end Rig

namespace MachineRun

variable {σ : Type} {judge : Constraint σ} {policy : Policy} {rig : Rig σ} {run : MachineRun σ}

/-- The changes lead to where the machine is; in maintenance it goes back to where it was. -/
def Travelled (run : MachineRun σ) : Prop :=
  ∃ before, Journey run.changes before run.rig.machine.current ∧
    (run.rig.machine.current = .maintenance → before = some run.rig.machine.maintenanceOrigin)

/-- The way so far is continued by where the machine goes. -/
lemma Travelled.after (h : run.Travelled) {move : MachineMove σ}
    (hgoes : run.rig.Goes (run.after judge move).rig) : (run.after judge move).Travelled := by
  obtain ⟨before, hjourney, hbefore⟩ := h
  have hchanges : (run.after judge move).changes = run.changes ++
      change run.rig.machine.current (run.after judge move).rig.machine.current := rfl
  unfold Travelled
  rw [hchanges]
  unfold change
  rcases hgoes with ⟨hsame, horigin⟩ | ⟨hedge, horigin⟩
  · rw [if_pos hsame.symm, List.append_nil, hsame]
    exact ⟨before, hjourney, fun hmaintenance => horigin hmaintenance ▸ hbefore hmaintenance⟩
  · rw [if_neg hedge.ne]
    -- The state that maintenance goes back to is the one that it was entered from.
    have hedge := hedge.congr (fun hmaintenance => (hbefore hmaintenance).symm)
    exact ⟨_, .change hjourney hedge, fun hmaintenance => congrArg some (horigin hmaintenance).symm⟩

lemma Reachable.travelled
    (h : Reachable judge (fun _ move => move.Continues) (.start rig policy) run) :
    run.Travelled := by
  induction h with
  | start => exact ⟨none, .start, fun hmaintenance => by cases hmaintenance⟩
  | move reached allowed ih => exact ih.after (Rig.goes_moved reached.sound allowed)

/-- The reports of a run add up. -/
lemma Reachable.reports (hreporting : Rig.Reporting rig.host)
    (h : Reachable judge (fun _ move => move.KeepsReports) (.start rig policy) run) :
    Rig.Reports run.changes rig.host run.rig.host := by
  induction h with
  | start => exact Rig.reports_nil hreporting rig.cancelTimers_queue rig.cancelTimers_store
  | @move run move reached allowed ih =>
    obtain ⟨htold, hrecorded, hreporting⟩ :=
      Rig.reports_moved judge run.policy reached.sound ih.reporting allowed
    refine ⟨?_, ?_, hreporting⟩
    · refine htold.trans ?_
      rw [ih.told, List.append_assoc, ← List.map_append]
      rfl
    · refine hrecorded.trans ?_
      rw [ih.recorded, List.append_assoc, ← List.map_append]
      rfl

end MachineRun

/-- From the start of a machine until it is stopped or started again, whatever happens, each change
of the current state is along one of the edges, and so the changes lead from working to the current
state, each from where the one before has led.

If messages can always be posted and events always put on record, the messages about changes of
state in the queue and the events in the trail are those that were there at the start, and then
exactly these changes in their order. -/
theorem state_changes_follow_edges_and_are_reported {σ : Type} {judge : Constraint σ} {rig : Rig σ}
    {policy : Policy} {run : MachineRun σ}
    (h : MachineRun.Reachable judge (fun _ move => move.Continues) (.start rig policy) run) :
    (∃ before, Journey run.changes before run.rig.machine.current) ∧
    (∀ first ∈ run.changes.head?, first.1 = .working) ∧
    run.changes.IsChain (fun earlier later => earlier.2 = later.1) ∧
    (Rig.Reporting rig.host →
      MachineRun.Reachable judge (fun _ move => move.KeepsReports) (.start rig policy) run →
      Rig.transits run.rig.host.queue.tasks =
        Rig.transits rig.host.queue.tasks ++ run.changes.map Rig.toldChange ∧
      run.rig.host.store.events =
        rig.host.store.events ++ run.changes.map Rig.recordedChange) := by
  obtain ⟨before, hjourney, -⟩ := h.travelled
  obtain ⟨hfirst, hchain, -⟩ := hjourney.chained
  refine ⟨⟨before, hjourney⟩, hfirst, hchain, fun hreporting hreached => ?_⟩
  obtain ⟨htold, hrecorded, -⟩ := hreached.reports hreporting
  exact ⟨htold, hrecorded⟩

/-- The device naps, maintains itself and naps again, until somebody switches the screen on. -/
def MachineRun.overnight : MachineRun Unit :=
  (start ⟨{}, {}, ()⟩ (Policy.default {})).afterAll Constraint.device
    [.handle (.event Action.screenOff), .host (.advance 300000),
      .deliver 1 (.transitNextState .dark), .host (.advance 900000),
      .deliver 2 (.transitNextState .nap), .host (.advance 30000),
      .deliver 3 (.transitNextState .maintenance), .handle (.event Action.screenOn)]

/-- The messages about that night are about its five changes. -/
theorem state_changes_overnight :
    MachineRun.overnight.changes = [(.working, .dark), (.dark, .nap), (.nap, .maintenance),
      (.maintenance, .nap), (.nap, .working)] ∧
    MachineRun.overnight.changes.IsChain (fun earlier later => earlier.2 = later.1) ∧
    Rig.transits MachineRun.overnight.rig.host.queue.tasks =
      MachineRun.overnight.changes.map Rig.toldChange ∧
    MachineRun.overnight.rig.host.store.events =
      MachineRun.overnight.changes.map Rig.recordedChange := by
  have hreached : MachineRun.Reachable Constraint.device (fun _ move => move.KeepsReports)
      (.start ⟨{}, {}, ()⟩ (Policy.default {})) MachineRun.overnight :=
    .afterAll .start (by simp [MachineMove.KeepsReports, MachineMove.Continues])
  obtain ⟨-, -, hchain, hreports⟩ := state_changes_follow_edges_and_are_reported
    (hreached.weaken (fun _ _ hmove => hmove.1))
  obtain ⟨htold, hrecorded⟩ := hreports ⟨rfl, rfl⟩ hreached
  exact ⟨by decide +kernel, hchain, htold, hrecorded⟩

end DeviceStandby
