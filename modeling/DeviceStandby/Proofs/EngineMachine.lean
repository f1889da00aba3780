import DeviceStandby.Proofs.EngineRuns
import DeviceStandby.Proofs.MachineWork

/-!
# An engine and its state machine

Handling a task comes to one move of the state machine, and then some work beside it
(`Engine.Heeded`): a loss of exemptions may be told, and the timer for the change between day and
night armed anew.  An engine that is not ready keeps its machine as it is.  Everything else that an
engine is asked to do is work beside the machine (`Engine.Beside`), starting and stopping apart.

A `Course` is a run of an engine together with the changes of state on the way.  Wherever it gets
the machine is sound, and the numbers of armed timers are not given again (`Course.sound`).
-/

namespace DeviceStandby

/-- Whether the task is a message about a change of state. -/
def Task.tellsState : Task → Bool
  | .message body => body.kind = .stateTransit
  | .timer _ _ | .evaluationFinished _ | .snapshot => false

/-! ## Work on the exemption table -/

namespace Admission

variable (arms : ArmedTimer → Prop) (a : Admission)

/-- At most one message was posted, and it tells that exemptions were lost. -/
def TellsLoss (more : List Task) : Prop :=
  more = [] ∨ ∃ uid name mask, more = [.message (.allowListChanged uid name mask false)]

lemma tellsLoss_heard (host : Host) (uid : Uid) (name : String) (mask : Mask) :
    TellsLoss (host.heard (.allowListChanged uid name mask false)) := by
  unfold Host.heard
  split
  · exact Or.inl rfl
  · exact Or.inr ⟨uid, name, mask, rfl⟩

lemma not_tellsState_heard (host : Host) (uid : Uid) (name : String) (mask : Mask)
    (added : Bool) : ∀ task ∈ host.heard (.allowListChanged uid name mask added),
      task.tellsState = false := by
  unfold Host.heard
  split
  · exact fun task hmem => by cases hmem
  · exact fun task hmem => List.mem_singleton.1 hmem ▸ rfl

lemma worked_notify (uid : Uid) (name : String) (mask : Mask) (added : Bool) :
    Host.Worked arms a.host (a.host.heard (.allowListChanged uid name mask added))
      (a.notify uid name mask added).host :=
  (Host.Worked.announce a.host _).still (.audit _ _)

lemma worked_revoke (uid : Uid) (name : String) (mask : Mask) (force : Bool) :
    ∃ more, Host.Worked arms a.host more (a.revoke uid name mask force).host ∧ TellsLoss more := by
  unfold revoke
  split
  · exact ⟨[], .refl a.host, Or.inl rfl⟩
  · rename_i revoked table _
    refine ⟨_, ?_, tellsLoss_heard a.host revoked.uid revoked.name revoked.removed⟩
    exact (Host.Worked.save a.host _ _).trans
      (worked_notify arms ({ a with table } : Admission).persist _ _ _ _)

lemma revoke_policy (uid : Uid) (name : String) (mask : Mask) (force : Bool) :
    (a.revoke uid name mask force).policy = a.policy := by
  unfold revoke
  split <;> rfl

/-- Telling of losses, one after the other, posts no message about the state. -/
lemma worked_losses (reaped : List Revoked) : ∃ more, Host.Worked arms a.host more
    (reaped.foldl (fun a revoked =>
      a.notify revoked.uid revoked.name revoked.removed false) a).host ∧
    ∀ task ∈ more, task.tellsState = false := by
  induction reaped generalizing a with
  | nil => exact ⟨[], .refl a.host, fun task hmem => by cases hmem⟩
  | cons revoked reaped ih =>
    have htold := worked_notify arms a revoked.uid revoked.name revoked.removed false
    obtain ⟨more, hmore, hsilent⟩ :=
      ih (a.notify revoked.uid revoked.name revoked.removed false)
    refine ⟨_, htold.trans hmore, fun task hmem => ?_⟩
    rcases List.mem_append.1 hmem with hmem | hmem
    · exact not_tellsState_heard _ _ _ _ _ task hmem
    · exact hsilent task hmem

lemma worked_grantSaved (request : Request) (mask : Mask) (pid : Pid) :
    Host.Worked (fun _ => True) a.host [] (a.grantSaved request mask pid).host := by
  have harmed : Host.Worked (fun _ => True) a.host [] (a.armed request mask pid).host :=
    .foldl _ (fun host _ => .arm host trivial) _ a.host
  unfold grantSaved
  split
  · exact harmed
  · exact harmed.trans (.save _ _ _)

/-- No operation on the table posts a message about the state. -/
lemma worked_perform (operation : Operation) : ∃ more,
    Host.Worked (fun _ => True) a.host more (a.perform operation).host ∧
    ∀ task ∈ more, task.tellsState = false := by
  rcases a.perform_cases operation with
    ⟨request, pid, mask, -, -, -, -, hperform⟩ | ⟨reaped, table, -, hperform⟩
  · have hsaved := worked_grantSaved a request mask pid
    rw [hperform, grantKinds_eq]
    split
    · exact ⟨[], hsaved, fun task hmem => by cases hmem⟩
    · exact ⟨_, hsaved.trans (worked_notify _ _ _ _ _ _), not_tellsState_heard _ _ _ _ _⟩
  · have hsettled : Host.Worked (fun _ => True) a.host [] (a.settled table reaped).host := by
      unfold settled
      split
      · exact .refl a.host
      · exact .save a.host _ _
    obtain ⟨more, hmore, hsilent⟩ := worked_losses (fun _ => True) (a.settled table reaped) reaped
    rw [hperform]
    exact ⟨more, hsettled.trans hmore, hsilent⟩

lemma recover_policy (running : Option Processes) : (a.recover running).policy = a.policy := by
  have hadopted : ∀ (records : List (String × Record)) (a : Admission),
      (records.foldl (fun a entry => a.adopt entry.1 entry.2) a).policy = a.policy := by
    intro records
    induction records with
    | nil => exact fun _ => rfl
    | cons entry records ih => exact fun a => ih _
  rcases a.recover_eq running with ⟨hsame, -⟩ | ⟨event, hrecover⟩
  · rw [hsame]
  · rw [hrecover]
    exact hadopted _ a

lemma worked_recover (running : Option Processes) :
    Host.Worked (fun _ => True) a.host [] (a.recover running).host := by
  have hadopted : ∀ (records : List (String × Record)) (a : Admission),
      Host.Worked (fun _ => True) a.host []
        (records.foldl (fun a entry => a.adopt entry.1 entry.2) a).host := by
    intro records
    induction records with
    | nil => exact fun a => .refl a.host
    | cons entry records ih =>
      intro a
      have harmed : Host.Worked (fun _ => True) a.host [] (a.adopt entry.1 entry.2).host :=
        .foldl _ (fun host _ => .arm host trivial) _ a.host
      exact harmed.trans (ih _)
  rcases a.recover_eq running with ⟨hsame, -⟩ | ⟨event, hrecover⟩
  · rw [hsame]
    exact .refl a.host
  · rw [hrecover]
    exact ((hadopted _ a).trans (.save _ _ _)).trans (.audit _ _)

end Admission

/-! ## Work beside the machine -/

namespace Engine

/-- From one engine to the other only its host was worked on, and what is shown of the machine, the
strategies and the roles stays. -/
structure Beside (arms : ArmedTimer → Prop) (e : Engine) (more : List Task) (after : Engine) :
    Prop where
  machine : after.machine = e.machine
  plugin : after.plugin = e.plugin
  policy : after.policy = e.policy
  strategies : after.strategies = e.strategies
  ready : after.ready = e.ready
  host : Host.Worked arms e.host more after.host

variable {arms : ArmedTimer → Prop} {e next last : Engine} {more later : List Task}

namespace Beside

lemma refl (e : Engine) : Beside arms e [] e := ⟨rfl, rfl, rfl, rfl, rfl, .refl e.host⟩

lemma trans (first : Beside arms e more next) (second : Beside arms next later last) :
    Beside arms e (more ++ later) last where
  machine := second.machine.trans first.machine
  plugin := second.plugin.trans first.plugin
  policy := second.policy.trans first.policy
  strategies := second.strategies.trans first.strategies
  ready := second.ready.trans first.ready
  host := first.host.trans second.host

end Beside

/-- The timer waits for the next change between day and night. -/
def Turns (policy : Policy) (now : Int) (timer : ArmedTimer) : Prop :=
  timer.task = .dayNightSwitch ∧ ∃ wall : Moment,
    timer.due = now + wrap64 (policy.night.untilNextEdge wall.secondOfDay * 1000 : Nat)

lemma beside_armDayNight (e : Engine) : Beside (Turns e.policy e.host.now) e [] e.armDayNight := by
  refine ⟨rfl, rfl, rfl, rfl, rfl, ?_⟩
  have hcancelled : Host.Worked (Turns e.policy e.host.now) e.host []
    (e.host.cancel? e.dayNightTimer) := .cancel? e.host e.dayNightTimer
  exact hcancelled.trans (.arm _ ⟨rfl, (e.host.cancel? e.dayNightTimer).wall,
    by rw [hcancelled.now]⟩)

/-- What a message asks of the engine itself is done beside the machine. -/
lemma beside_keepHouse (e : Engine) (message : Message) : ∃ more,
    Beside (Turns e.policy e.host.now) e more (e.keepHouse message) ∧
      Admission.TellsLoss more := by
  unfold keepHouse
  split
  · split
    · rename_i uid name _ _
      obtain ⟨more, hmore, hloss⟩ := Admission.worked_revoke (Turns e.policy e.host.now)
        e.toAdmission uid name (Admission.removalMask true) true
      exact ⟨more, ⟨rfl, rfl, Admission.revoke_policy .., rfl, rfl, hmore⟩, hloss⟩
    · exact ⟨[], .refl e, Or.inl rfl⟩
  · split
    · exact ⟨[], beside_armDayNight e, Or.inl rfl⟩
    · exact ⟨[], .refl e, Or.inl rfl⟩

/-- Only a common event asks anything of the engine itself. -/
lemma keepHouse_of_ne (e : Engine) {message : Message} (h : message.kind ≠ .commonEvent) :
    e.keepHouse message = e := by
  simp [keepHouse, Message.reports, h]

/-! ## Handling tasks -/

/-- Logging a call changes nothing but the log. -/
lemma note_eq (e : Engine) (call : RoleCall) : ∃ probe, e.note call = { e with probe } := by
  unfold note
  split
  · exact ⟨_, rfl⟩
  · exact ⟨e.probe, rfl⟩

lemma drive_eq (e : Engine) (step : Rig Probe → Rig Probe) : e.drive step = { e with
    machine := (step ⟨e.machine, e.host, e.probe⟩).machine
    host := (step ⟨e.machine, e.host, e.probe⟩).host
    probe := (step ⟨e.machine, e.host, e.probe⟩).constraint } := rfl

/-- The machine and its host when the machine has taken note of a task, unless the engine is not
ready. -/
def driven (e : Engine) (probe : Probe) (task : Task) : Rig Probe :=
  if e.ready then Rig.moved e.plugin.constraint e.policy ⟨e.machine, e.host, probe⟩ task.move
  else ⟨e.machine, e.host, probe⟩

/-- The strategies when they have taken note of a task. -/
def heeding (policy : Policy) (active : List String) : Task → List String
  | .message body => strategiesAfter policy active body
  | .timer _ _ | .evaluationFinished _ | .snapshot => active

lemma heeding_of_silent (policy : Policy) (active : List String) {task : Task}
    (h : task.tellsState = false) : heeding policy active task = active := by
  cases task with
  | message body => simp [heeding, strategiesAfter, of_decide_eq_false h]
  | timer | evaluationFinished | snapshot => rfl

/-- The machine and the strategies have taken note of the task, and what is done beside them is that
a loss may be told and the timer for the change between day and night armed. -/
structure Heeded (e : Engine) (task : Task) (after : Engine) : Prop where
  plugin : after.plugin = e.plugin
  policy : after.policy = e.policy
  ready : after.ready = e.ready
  strategies : after.strategies =
    if e.ready then heeding e.policy e.strategies task else e.strategies
  work : ∃ probe more, after.machine = (e.driven probe task).machine ∧
    Host.Worked (Turns e.policy (e.driven probe task).host.now)
      (e.driven probe task).host more after.host ∧
    Admission.TellsLoss more

/-- A task that the machine and the strategies take no note of. -/
lemma Beside.heeded {task : Task} (h : Beside (Turns e.policy e.host.now) e more next)
    (hloss : Admission.TellsLoss more)
    (hmachine : ∀ rig : Rig Probe, Rig.moved e.plugin.constraint e.policy rig task.move = rig)
    (hstrategies : heeding e.policy e.strategies task = e.strategies) : Heeded e task next where
  plugin := h.plugin
  policy := h.policy
  ready := h.ready
  strategies := by rw [h.strategies, hstrategies, ite_self]
  work := by
    refine ⟨e.probe, more, ?_, ?_, hloss⟩
    · rw [driven, hmachine, ite_self]
      exact h.machine
    · rw [driven, hmachine, ite_self]
      exact h.host

/-- An engine that is not ready lets nothing be noted. -/
lemma heeded_of_not_ready (h : e.ready = false) (task : Task) : Heeded e task e where
  plugin := rfl
  policy := rfl
  ready := rfl
  strategies := by rw [h, if_neg Bool.false_ne_true]
  work := by
    refine ⟨e.probe, [], ?_, ?_, Or.inl rfl⟩
    · rw [driven, h, if_neg Bool.false_ne_true]
    · rw [driven, h, if_neg Bool.false_ne_true]
      exact .refl e.host

/-- Delivering a message to an engine that is ready. -/
lemma deliver_eq (h : e.ready = true) (body : Message) : ∃ probe last,
    let rig := Rig.handleEvent e.plugin.constraint e.policy body ⟨e.machine, e.host, probe⟩
    e.deliver body = keepHouse { e with
      listener := e.listener.hear
      machine := rig.machine
      host := rig.host
      probe := last
      strategies := strategiesAfter e.policy e.strategies body } body := by
  obtain ⟨first, hfirst⟩ := note_eq { e with listener := e.listener.hear }
    (.listenerEvent e.listener.hear.seen)
  obtain ⟨probe, hprobe⟩ := note_eq { e with listener := e.listener.hear, probe := first }
    .stateEvent
  obtain ⟨last, hlast⟩ := note_eq (drive { e with listener := e.listener.hear, probe }
    (Rig.handleEvent e.plugin.constraint e.policy body)) .strategyEvent
  refine ⟨probe, last, ?_⟩
  unfold deliver
  rw [if_neg (by rw [h]; exact Bool.false_ne_true)]
  dsimp only
  rw [hfirst, hprobe, hlast]
  rfl

lemma driven_of_ready (h : e.ready = true) (probe : Probe) (task : Task) :
    e.driven probe task =
      Rig.moved e.plugin.constraint e.policy ⟨e.machine, e.host, probe⟩ task.move := by
  rw [driven, if_pos h]

/-- An engine that is not ready drops messages. -/
lemma deliver_of_not_ready (h : e.ready = false) (body : Message) : e.deliver body = e := by
  unfold deliver
  rw [if_pos (by rw [h]; rfl)]

lemma heeded_deliver (e : Engine) (body : Message) :
    Heeded e (.message body) (e.deliver body) := by
  cases hready : e.ready with
  | false =>
    rw [deliver_of_not_ready hready]
    exact heeded_of_not_ready hready _
  | true =>
    obtain ⟨probe, last, hdeliver⟩ := deliver_eq hready body
    have hdriven : e.driven probe (.message body) =
        Rig.handleEvent e.plugin.constraint e.policy body ⟨e.machine, e.host, probe⟩ :=
      driven_of_ready hready probe (.message body)
    dsimp only at hdeliver
    rw [← hdriven] at hdeliver
    obtain ⟨more, hbeside, hloss⟩ := beside_keepHouse { e with
      listener := e.listener.hear
      machine := (e.driven probe (.message body)).machine
      host := (e.driven probe (.message body)).host
      probe := last
      strategies := strategiesAfter e.policy e.strategies body } body
    rw [hdeliver]
    refine ⟨hbeside.plugin, hbeside.policy, hbeside.ready, ?_, probe, more, hbeside.machine,
      hbeside.host, hloss⟩
    rw [hbeside.strategies, if_pos hready]
    rfl

/-- A message that is no common event and not about device states concerns at most the listener and
the strategies. -/
lemma deliver_idle (e : Engine) {body : Message} (hevent : body.kind ≠ .commonEvent)
    (hdevice : body.kind ≠ .deviceStateChanged) : ∃ listener probe strategies,
      e.deliver body = { e with listener, probe, strategies } ∧
      (body.kind ≠ .stateTransit → strategies = e.strategies) := by
  by_cases hready : e.ready = true
  · obtain ⟨probe, last, hdeliver⟩ := deliver_eq hready body
    have hrig : Rig.handleEvent e.plugin.constraint e.policy body ⟨e.machine, e.host, probe⟩ =
        ⟨e.machine, e.host, probe⟩ := by
      unfold Rig.handleEvent
      split
      · rename_i hkind
        exact absurd hkind hevent
      · rename_i hkind
        exact absurd hkind hdevice
      · rfl
    rw [hdeliver, keepHouse_of_ne _ hevent, hrig]
    exact ⟨e.listener.hear, last, strategiesAfter e.policy e.strategies body, rfl,
      fun hstate => if_neg hstate⟩
  · exact ⟨e.listener, e.probe, e.strategies,
      deliver_of_not_ready (Bool.eq_false_iff.2 hready) body, fun _ => rfl⟩

lemma beside_deliver_idle (arms : ArmedTimer → Prop) (e : Engine) {body : Message}
    (hevent : body.kind ≠ .commonEvent) (hdevice : body.kind ≠ .deviceStateChanged)
    (hstate : body.kind ≠ .stateTransit) : Beside arms e [] (e.deliver body) := by
  obtain ⟨listener, probe, strategies, hdeliver, hsame⟩ := e.deliver_idle hevent hdevice
  rw [hdeliver]
  exact ⟨rfl, rfl, rfl, hsame hstate, rfl, .refl e.host⟩

lemma beside_onDayNight (e : Engine) (id : TimerId) :
    Beside (Turns e.policy e.host.now) e [] (e.onDayNight id) := by
  unfold onDayNight
  split
  · exact .refl e
  · have hforget : Beside (Turns e.policy e.host.now) e [] { e with dayNightTimer := none } :=
      ⟨rfl, rfl, rfl, rfl, rfl, .refl e.host⟩
    dsimp only
    split
    · exact hforget
    · -- A sleeping device is told of the condition, but that is no matter to machine and table.
      have htold : Beside (Turns e.policy e.host.now) e []
          (if e.machine.current = .sleep
            then ({ e with dayNightTimer := none } : Engine).deliver
              (.conditionChanged e.toAdmission.condition)
            else { e with dayNightTimer := none }) := by
        split
        · refine hforget.trans (beside_deliver_idle _ _ ?_ ?_ ?_)
          all_goals exact fun hkind => by cases hkind
        · exact hforget
      have harmed := beside_armDayNight (if e.machine.current = .sleep
        then ({ e with dayNightTimer := none } : Engine).deliver
          (.conditionChanged e.toAdmission.condition)
        else { e with dayNightTimer := none })
      rw [htold.policy, htold.host.now] at harmed
      exact htold.trans harmed

lemma heeded_onTimer (e : Engine) (id : TimerId) (task : TimerTask) :
    Heeded e (.timer id task) (e.onTimer id task) := by
  have hdriven : ∀ task : TimerTask, task.ofMachine = true → Heeded e (.timer id task)
      (if e.ready then
        (e.note (.stateTimer id)).drive (Rig.onTimer e.plugin.constraint e.policy id task)
      else e) := by
    intro task htask
    split
    · rename_i hready
      obtain ⟨probe, hprobe⟩ := note_eq e (.stateTimer id)
      rw [hprobe]
      refine ⟨rfl, rfl, rfl, (ite_self _).symm, probe, [], ?_, ?_, Or.inl rfl⟩
      · rw [driven_of_ready hready]
        rfl
      · rw [driven_of_ready hready]
        exact .refl _
    · rename_i hready
      exact heeded_of_not_ready (Bool.eq_false_iff.2 hready) _
  cases task with
  | transitNextState source => exact hdriven _ rfl
  | transitNextPhase state => exact hdriven _ rfl
  | revokeExpired uid name mask =>
    obtain ⟨more, hmore, hloss⟩ := Admission.worked_revoke (Turns e.policy e.host.now)
      e.toAdmission uid name mask false
    have hbeside : Beside (Turns e.policy e.host.now) e more
        (e.onTimer id (.revokeExpired uid name mask)) :=
      ⟨rfl, rfl, Admission.revoke_policy .., rfl, rfl, hmore⟩
    exact hbeside.heeded hloss (fun _ => rfl) rfl
  | dayNightSwitch => exact (beside_onDayNight e id).heeded (Or.inl rfl) (fun _ => rfl) rfl

/-- Handling a task is a move of the machine, and work beside it. -/
theorem heeded_handle (e : Engine) (task : Task) : Heeded e task (e.handle task) := by
  cases task with
  | message body => exact heeded_deliver e body
  | timer id task => exact heeded_onTimer e id task
  | evaluationFinished passed =>
    unfold handle
    dsimp only
    split
    · rename_i hready
      obtain ⟨probe, hprobe⟩ := note_eq e (.stateEndEvaluation passed)
      rw [hprobe]
      refine ⟨rfl, rfl, rfl, (ite_self _).symm, probe, [], ?_, ?_, Or.inl rfl⟩
      · rw [driven_of_ready hready]
        rfl
      · rw [driven_of_ready hready]
        exact .refl _
    · rename_i hready
      exact heeded_of_not_ready (Bool.eq_false_iff.2 hready) _
  | snapshot =>
    refine ⟨rfl, rfl, rfl, (ite_self _).symm, e.probe, [], ?_, ?_, Or.inl rfl⟩
    · unfold driven
      split <;> rfl
    · unfold driven
      split <;> exact .refl e.host

/-! ## What else an engine is asked to do -/

/-- Whether the machine has no part in what the engine is asked to do, and the policy stays. -/
def Act.IsAside : Act → Prop
  | .uninit | .reload _ | .handle _ | .handleNext | .awaitSnapshot => False
  | _ => True

/-- The tasks that a caller puts into the queue. -/
def Act.injected : Act → List Task
  | .submit task => [task]
  | .dispatch message | .report _ message => [.message message]
  | _ => []

lemma beside_submit (e : Engine) (task : Task) : ∃ more,
    Beside (fun _ => True) e more (e.submit task).2 ∧ ∀ other ∈ more, other = task := by
  refine ⟨_, ⟨rfl, rfl, rfl, rfl, rfl, .post e.host task⟩, fun other hmem => ?_⟩
  split at hmem
  · cases hmem
  · exact List.mem_singleton.1 hmem

lemma beside_onTable {α : Type} (e : Engine) (admitted : Except ServiceError Unit)
    {act : Admission → Except ServiceError α × Admission} (operation : Operation)
    (hact : (act e.toAdmission).2 = e.toAdmission.perform operation) : ∃ more,
    Beside (fun _ => True) e more (e.onTable admitted act).2 ∧
      ∀ task ∈ more, task.tellsState = false := by
  unfold onTable
  cases admitted with
  | error error => exact ⟨[], .refl e, fun task hmem => by cases hmem⟩
  | ok =>
    obtain ⟨more, hmore, hsilent⟩ := e.toAdmission.worked_perform operation
    refine ⟨more, ⟨rfl, rfl, ?_, rfl, rfl, ?_⟩, hsilent⟩
    · show (act e.toAdmission).2.policy = e.policy
      rw [hact]
      exact Admission.perform_policy _ operation
    · show Host.Worked (fun _ => True) e.host more (act e.toAdmission).2.host
      rw [hact]
      exact hmore

lemma beside_recordDevice (e : Engine) (kind : Int) (enabled : Bool) : ∃ more,
    Beside (fun _ => True) e more (e.recordDevice kind enabled).2 ∧
      ∀ task ∈ more, task.tellsState = false := by
  unfold recordDevice
  have hrecorded : Beside (fun _ => True) e [] { e with
      host := { e.host with devices := (e.host.devices.report kind enabled).2 } } :=
    ⟨rfl, rfl, rfl, rfl, rfl, .of_same rfl rfl⟩
  dsimp only
  split
  · obtain ⟨more, hmore, hposted⟩ := beside_submit _ (.message (.deviceStateChanged kind enabled))
    exact ⟨more, hrecorded.trans hmore, fun task hmem => by rw [hposted task hmem]; rfl⟩
  · exact ⟨[], hrecorded, fun task hmem => by cases hmem⟩

lemma beside_receive (e : Engine) (event : SystemEvent) : ∃ more,
    Beside (fun _ => True) e more (e.receive event).2 ∧
      ∀ task ∈ more, task.tellsState = false := by
  have hmessage : ∀ message, event.message = some message →
      (Task.message message).tellsState = false := by
    intro message heq
    cases event <;> simp [SystemEvent.message] at heq <;> subst heq <;> rfl
  have hsubmit : ∀ (e : Engine) (message : Message), event.message = some message → ∃ more,
      Beside (fun _ => True) e more (e.submit (.message message)).2 ∧
        ∀ task ∈ more, task.tellsState = false := by
    intro e message heq
    obtain ⟨more, hmore, hposted⟩ := beside_submit e (.message message)
    exact ⟨more, hmore, fun task hmem => by rw [hposted task hmem]; exact hmessage message heq⟩
  unfold receive
  cases e.ensureReady with
  | error error => exact ⟨[], .refl e, fun task hmem => by cases hmem⟩
  | ok =>
    rcases hstate : event.deviceState with _ | ⟨kind, active⟩
    · cases heq : event.message with
      | none => exact ⟨[], .refl e, fun task hmem => by cases hmem⟩
      | some message => exact hsubmit e message heq
    · obtain ⟨first, hfirst, hsilent⟩ := beside_recordDevice e kind.index active
      dsimp only
      rcases hrecord : e.recordDevice kind.index active with ⟨_ | _, recorded⟩
      · rw [hrecord] at hfirst
        exact ⟨first, hfirst, hsilent⟩
      · rw [hrecord] at hfirst
        cases heq : event.message with
        | none => exact ⟨first, hfirst, hsilent⟩
        | some message =>
          obtain ⟨more, hmore, hlater⟩ := hsubmit recorded message heq
          refine ⟨first ++ more, hfirst.trans hmore, fun task hmem => ?_⟩
          exact (List.mem_append.1 hmem).elim (hsilent task) (hlater task)

/-- What the machine has no part in is work beside it, and the only messages about the state that it
posts are those that a caller puts into the queue. -/
theorem beside_act (e : Engine) {act : Act} (hact : act.IsAside) : ∃ more,
    Beside (fun _ => True) e more (e.act act) ∧
      ∀ task ∈ more, task.tellsState = true → task ∈ act.injected := by
  have silent : ∀ {next : Engine}, (∃ more, Beside (fun _ => True) e more next ∧
      ∀ task ∈ more, task.tellsState = false) → ∃ more, Beside (fun _ => True) e more next ∧
      ∀ task ∈ more, task.tellsState = true → task ∈ act.injected := by
    rintro next ⟨more, hmore, hsilent⟩
    refine ⟨more, hmore, fun task hmem htells => ?_⟩
    rw [hsilent task hmem] at htells
    cases htells
  have refused : ∃ more, Beside (fun _ => True) e more e ∧
      ∀ task ∈ more, task.tellsState = true → task ∈ act.injected :=
    ⟨[], .refl e, fun task hmem => by cases hmem⟩
  cases act with
  | uninit | reload | handle | handleNext | awaitSnapshot => exact hact.elim
  | operate operation =>
    obtain ⟨more, hmore, hsilent⟩ := e.toAdmission.worked_perform operation
    exact silent ⟨more, ⟨rfl, rfl, Admission.perform_policy _ operation, rfl, rfl, hmore⟩, hsilent⟩
  | apply caller request =>
    exact silent (beside_onTable e _ (.grant (narrowed caller request) caller.pid) rfl)
  | unapply caller request =>
    exact silent (beside_onTable e _ (.unapply (narrowed caller request)) rfl)
  | allowList caller mask code => exact silent (beside_onTable e _ (.allowList mask code) rfl)
  | restrictSet mask strategy code =>
    exact silent (beside_onTable e _ (.restrictSet mask strategy code) rfl)
  | submit task =>
    obtain ⟨more, hmore, hposted⟩ := beside_submit e task
    exact ⟨more, hmore, fun other hmem _ => List.mem_singleton.2 (hposted other hmem)⟩
  | dispatch message =>
    simp only [Engine.act, dispatch]
    split
    · exact refused
    · obtain ⟨more, hmore, hposted⟩ := beside_submit e (.message message)
      exact ⟨more, hmore, fun other hmem _ => List.mem_singleton.2 (hposted other hmem)⟩
  | report caller message =>
    simp only [Engine.act, report]
    split
    · exact refused
    · obtain ⟨more, hmore, hposted⟩ := beside_submit e (.message message)
      exact ⟨more, hmore, fun other hmem _ => List.mem_singleton.2 (hposted other hmem)⟩
  | reportDevice caller kind enabled =>
    simp only [Engine.act, reportDevice]
    split
    · exact refused
    · exact silent (beside_recordDevice e kind enabled)
  | receive event => exact silent (beside_receive e event)

lemma note_machine (e : Engine) (call : RoleCall) : (e.note call).machine = e.machine := by
  obtain ⟨probe, hprobe⟩ := note_eq e call
  rw [hprobe]

lemma note_host (e : Engine) (call : RoleCall) : (e.note call).host = e.host := by
  obtain ⟨probe, hprobe⟩ := note_eq e call
  rw [hprobe]

/-- Stopping the roles stops the machine, and posts nothing. -/
lemma uninit_spec (arms : ArmedTimer → Prop) (e : Engine) :
    (e.uninit.machine = e.machine ∨ e.uninit.machine = { e.machine with
      stateTimer := none, phaseTimer := none, awaited := none, lockHeld := false }) ∧
    Host.Worked arms e.host [] e.uninit.host := by
  unfold uninit
  split
  · exact ⟨Or.inl rfl, .refl e.host⟩
  · dsimp only
    simp only [drive_eq, audit, note_machine, note_host]
    refine ⟨Or.inr (Rig.uninit_machine _), .still (.still ?_ (.cancel? _ _)) (.audit _ _)⟩
    exact Rig.worked_uninit arms (⟨e.machine, e.host, _⟩ : Rig Probe)

/-! ## Starting -/

/-- What logging, the start of the machine and the other roles keep is kept while the roles are
brought up; and if all of them came up, the timer for day and night is armed then. -/
lemma rise_cases {P : Engine → Prop} (hnote : ∀ e call, P e → P (e.note call))
    (hmachine : ∀ e, P e → P (e.drive Rig.init))
    (hstrategies : ∀ e : Engine, P e → P { e with strategies := [] })
    (hlistener : ∀ (e : Engine) (listener : Listener), P e → P { e with listener }) (h : P e) :
    ∃ raised, P raised ∧ (e.rise = (false, raised) ∨ e.rise = (true, raised.armDayNight)) := by
  have hbring : ∀ (e : Engine) (call : RoleCall) {act : Engine → Engine},
      (∀ e, P e → P (act e)) → P e → P (e.bringUp call act).2 := by
    intro e call act hact h
    unfold bringUp
    dsimp only
    split
    · exact hnote e call h
    · exact hact _ (hnote e call h)
  have hall : ∀ (roles : List (RoleCall × (Engine → Engine))) (e : Engine),
      (∀ role ∈ roles, ∀ e, P e → P (role.2 e)) → P e → P (bringUpAll roles e).2 := by
    intro roles
    induction roles with
    | nil => exact fun _ _ h => h
    | cons role roles ih =>
      intro e hroles h
      have hfirst := hbring e role.1 (hroles role List.mem_cons_self) h
      rw [bringUpAll]
      rcases hresult : e.bringUp role.1 role.2 with ⟨_ | _, raised⟩
      · rw [hresult] at hfirst
        exact hfirst
      · rw [hresult] at hfirst
        exact ih raised (fun role hmem => hroles role (List.mem_cons_of_mem _ hmem)) hfirst
  unfold rise
  have hfirst := hbring e .stateInit hmachine h
  rcases hresult : e.bringUp .stateInit (fun e => e.drive Rig.init) with ⟨_ | _, first⟩
  · rw [hresult] at hfirst
    exact ⟨first, hfirst, Or.inl rfl⟩
  · rw [hresult] at hfirst
    have hlater : P (bringUpAll laterRoles first).2 := by
      refine hall laterRoles first (fun role hmem e h => ?_) hfirst
      simp only [laterRoles, List.mem_cons, List.not_mem_nil, or_false] at hmem
      rcases hmem with rfl | rfl | rfl | rfl
      · exact hstrategies e h
      · exact h
      · exact h
      · exact hlistener e e.listener.start h
    dsimp only
    rcases hresult' : bringUpAll laterRoles first with ⟨_ | _, later⟩
    all_goals rw [hresult'] at hlater
    · exact ⟨later, hlater, Or.inl rfl⟩
    · exact ⟨later, hlater, Or.inr rfl⟩

/-- What arming the timer for day and night keeps too, is kept to the end. -/
lemma rise_induct {P : Engine → Prop} (hnote : ∀ e call, P e → P (e.note call))
    (hmachine : ∀ e, P e → P (e.drive Rig.init))
    (hroles : ∀ (e : Engine) (strategies : List String) (listener : Listener), P e →
      P { e with strategies, listener })
    (hdayNight : ∀ e : Engine, P e → P e.armDayNight) (h : P e) : P e.rise.2 := by
  obtain ⟨raised, hraised, hrise | hrise⟩ := rise_cases hnote hmachine
    (fun e => hroles e [] e.listener) (fun e => hroles e e.strategies) h
  all_goals rw [hrise]
  · exact hraised
  · exact hdayNight raised hraised

/-! ## Order -/

/-- The machine is sound; and the numbers of armed timers are not given again, if `counted` says so.
The machine does not depend on this. -/
structure Ordered (counted : Prop) (e : Engine) : Prop where
  machine : e.machine.Sound
  timers : counted → e.host.timers.Counted

variable {counted : Prop}

namespace Ordered

lemma of_same (h : e.Ordered counted) (hmachine : next.machine = e.machine)
    (htimers : next.host.timers = e.host.timers) : next.Ordered counted := by
  refine ⟨?_, ?_⟩
  · rw [hmachine]
    exact h.machine
  · rw [htimers]
    exact h.timers

lemma beside (h : e.Ordered counted) (hbeside : Beside arms e more next) :
    next.Ordered counted := by
  refine ⟨?_, fun hcounted => hbeside.host.counted (h.timers hcounted)⟩
  rw [hbeside.machine]
  exact h.machine

/-- What the machine tells and does to the host, when it has taken note of a task. -/
lemma driven (h : e.Ordered counted) (probe : Probe) (task : Task) :
    (e.driven probe task).machine.Sound ∧
      ∃ more, (⟨e.machine, e.host, probe⟩ : Rig Probe).Tells (e.driven probe task) more := by
  unfold Engine.driven
  split
  · exact ⟨Rig.sound_moved h.machine _, Rig.tells_task _ _ h.machine task⟩
  · exact ⟨h.machine, [], Rig.tells_nothing rfl (.refl e.host)⟩

lemma handle (h : e.Ordered counted) (task : Task) : (e.handle task).Ordered counted := by
  obtain ⟨probe, more, hmachine, hwork, -⟩ := (heeded_handle e task).work
  obtain ⟨hsound, told, htells⟩ := h.driven probe task
  refine ⟨?_, fun hcounted => hwork.counted (htells.worked.counted (h.timers hcounted))⟩
  rw [hmachine]
  exact hsound

lemma uninit (h : e.Ordered counted) : e.uninit.Ordered counted := by
  obtain ⟨hmachine, hwork⟩ := uninit_spec (fun _ => True) e
  refine ⟨?_, fun hcounted => hwork.counted (h.timers hcounted)⟩
  rcases hmachine with hmachine | hmachine
  · rw [hmachine]
    exact h.machine
  · rw [hmachine]
    exact h.machine.stopped

lemma reload (h : e.Ordered counted) (policy : Policy) : (e.reload policy).Ordered counted := by
  have hreplaced : ({ e with policy } : Engine).Ordered counted := ⟨h.machine, h.timers⟩
  unfold Engine.reload
  dsimp only
  split
  · exact hreplaced.beside (beside_armDayNight _)
  · exact hreplaced

lemma rise (h : e.Ordered counted) : e.rise.2.Ordered counted := by
  refine rise_induct ?_ ?_ ?_ ?_ h
  · exact fun e call h => h.of_same (e.note_machine call) (by rw [e.note_host call])
  · exact fun e h => ⟨Rig.sound_init _, fun hcounted =>
      (Rig.worked_init (fun _ => True) _).counted (h.timers hcounted)⟩
  · exact fun e strategies listener h => ⟨h.machine, h.timers⟩
  · exact fun e h => h.beside (beside_armDayNight e)

lemma init (h : e.Ordered counted) (running : Option Processes) :
    (e.init running).2.Ordered counted := by
  rw [init_state]
  split
  · exact h
  · have hrise := h.rise
    rcases hresult : e.rise with ⟨_ | _, risen⟩
    · rw [hresult] at hrise
      exact hrise
    · rw [hresult] at hrise
      refine ⟨hrise.machine, fun hcounted => ?_⟩
      exact ((Admission.worked_recover risen.toAdmission running).still (.audit _ _)).counted
        (hrise.timers hcounted)

end Ordered

/-! ## The queue -/

/-- The engine with other tasks in the queue. -/
def withTasks (e : Engine) (tasks : List Task) : Engine :=
  { e with host := { e.host with queue := { e.host.queue with tasks } } }

/-- The first task is taken from the queue and then handled. -/
lemma act_handleNext (e : Engine) :
    (e.host.queue.tasks = [] ∧ e.act .handleNext = e) ∨
    ∃ task tasks, e.host.queue.tasks = task :: tasks ∧
      e.act .handleNext = (e.withTasks tasks).handle task := by
  simp only [act, handleNext]
  cases htasks : e.host.queue.tasks with
  | nil => exact Or.inl ⟨rfl, rfl⟩
  | cons task tasks => exact Or.inr ⟨task, tasks, rfl, rfl⟩

end Engine

/-! ## Courses -/

/-- Whether the move is one step.  To wait for a snapshot is to ask for it and then to handle one
task after the other. -/
def EngineMove.IsSingle : EngineMove → Prop
  | .act .awaitSnapshot => False
  | _ => True

/-- Where a run can get that begins somewhere, if all its moves are allowed, and which changes of
state it has come by.  Moves are single steps; that a timer for the next phase could not be armed,
although the one for the state could, is a step of its own. -/
inductive Course (Allows : EngineRun → EngineMove → Prop) (start : EngineRun) :
    List (State × State) → EngineRun → Prop where
  | start : Course Allows start [] start
  | move {changes : List (State × State)} {run : EngineRun} {move : EngineMove}
      (course : Course Allows start changes run) (single : move.IsSingle)
      (allowed : Allows run move) :
      Course Allows start
        (changes ++ MachineRun.change run.engine.machine.current
          (run.after move).engine.machine.current) (run.after move)
  | refusePhase {changes : List (State × State)} {run : EngineRun}
      (course : Course Allows start changes run) :
      Course Allows start changes { run with engine := run.engine.drive Rig.refusePhase }

namespace Engine.Ordered

variable {counted : Prop} {e : Engine}

lemma withTasks (h : e.Ordered counted) (tasks : List Task) :
    (e.withTasks tasks).Ordered counted := ⟨h.machine, h.timers⟩

lemma advance (h : e.Ordered counted) (millis : Nat) : (e.advance millis).Ordered counted :=
  ⟨h.machine, fun hcounted timer hmem => h.timers hcounted timer (List.mem_filter.1 hmem).1⟩

lemma act (h : e.Ordered counted) {act : Act} (hact : act ≠ .awaitSnapshot) :
    (e.act act).Ordered counted := by
  by_cases haside : act.IsAside
  · obtain ⟨more, hbeside, -⟩ := beside_act e haside
    exact h.beside hbeside
  · cases act with
    | uninit => exact h.uninit
    | reload policy => exact h.reload policy
    | handle task => exact h.handle task
    | handleNext =>
      rcases act_handleNext e with ⟨-, hsame⟩ | ⟨task, tasks, -, hnext⟩
      · rw [hsame]
        exact h
      · rw [hnext]
        exact (h.withTasks tasks).handle task
    | awaitSnapshot => exact absurd rfl hact
    | operate | apply | unapply | allowList | restrictSet | submit | dispatch | report
    | reportDevice | receive => exact absurd trivial haside

lemma refusePhase (h : e.Ordered counted) : (e.drive Rig.refusePhase).Ordered counted :=
  ⟨by rw [drive_eq, Rig.refusePhase_machine]; exact h.machine.unphased _,
    fun hcounted => (Rig.worked_refusePhase (fun _ => True) _).counted (h.timers hcounted)⟩

lemma after {run : EngineRun} (h : run.engine.Ordered counted) {move : EngineMove}
    (hsingle : move.IsSingle) : (run.after move).engine.Ordered counted := by
  cases move with
  | act act => exact h.act (fun heq => by rw [heq] at hsingle; exact hsingle)
  | init running => exact h.init running
  | advance millis => exact h.advance millis
  | heed timer => exact h.handle (.timer timer.id timer.task)
  | setWall moment => exact ⟨h.machine, h.timers⟩
  | fail failing on =>
    refine ⟨h.machine, ?_⟩
    cases failing <;> exact h.timers

end Engine.Ordered

/-- Wherever a course gets, the engine is in order. -/
lemma Course.ordered {Allows : EngineRun → EngineMove → Prop} {start run : EngineRun}
    {changes : List (State × State)} {counted : Prop} (h : Course Allows start changes run)
    (hstart : start.engine.Ordered counted) : run.engine.Ordered counted := by
  induction h with
  | start => exact hstart
  | move _ single _ ih => exact ih.after single
  | refusePhase _ ih => exact ih.refusePhase

namespace EngineRun

/-- Where a run is after one move after the other. -/
def afterAll (run : EngineRun) (moves : List EngineMove) : EngineRun := moves.foldl after run

/-- The changes of state on that way. -/
def changedBy (run : EngineRun) : List EngineMove → List (State × State)
  | [] => []
  | move :: moves =>
    MachineRun.change run.engine.machine.current (run.after move).engine.machine.current
      ++ (run.after move).changedBy moves

/-- To wait for a snapshot comes to asking for it and handling tasks. -/
theorem after_awaitSnapshot (run : EngineRun) : ∃ moves : List EngineMove,
    (∀ move ∈ moves, move = .act (.submit .snapshot) ∨ move = .act .handleNext) ∧
    run.after (.act .awaitSnapshot) = run.afterAll moves := by
  have hhandled : ∀ (count : Nat) (run : EngineRun), ∃ moves : List EngineMove,
      (∀ move ∈ moves, move = .act (.submit .snapshot) ∨ move = .act .handleNext) ∧
        { run with engine := (Engine.handleSome count run.engine).2 } = run.afterAll moves := by
    intro count
    induction count with
    | zero => exact fun run => ⟨[], List.forall_mem_nil _, rfl⟩
    | succ count ih =>
      intro run
      rw [Engine.handleSome]
      cases hnext : run.engine.handleNext with
      | none => exact ⟨[], List.forall_mem_nil _, rfl⟩
      | some handled =>
        obtain ⟨moves, hkinds, hmoves⟩ := ih { run with engine := handled.2 }
        refine ⟨.act .handleNext :: moves, List.forall_mem_cons.2 ⟨Or.inr rfl, hkinds⟩, ?_⟩
        have hfirst : run.after (.act .handleNext) = { run with engine := handled.2 } := by
          simp only [after, Engine.act, hnext]
          rfl
        rw [afterAll, List.foldl_cons, hfirst, ← afterAll, ← hmoves]
  show ∃ moves : List EngineMove,
    (∀ move ∈ moves, move = .act (.submit .snapshot) ∨ move = .act .handleNext) ∧
    { run with engine := run.engine.awaitSnapshot.2.2 } = run.afterAll moves
  unfold Engine.awaitSnapshot Engine.requestSnapshot
  cases run.engine.ensureReady with
  | error error => exact ⟨[], List.forall_mem_nil _, rfl⟩
  | ok =>
    dsimp only
    rcases hsubmit : run.engine.submit .snapshot with ⟨_ | _, asked⟩
    all_goals
      have hasked : run.after (.act (.submit .snapshot)) = { run with engine := asked } := by
        simp only [after, Engine.act, hsubmit]
    · exact ⟨[.act (.submit .snapshot)], List.forall_mem_singleton.2 (Or.inl rfl), hasked.symm⟩
    · obtain ⟨moves, hkinds, hmoves⟩ :=
        hhandled asked.host.queue.tasks.length { run with engine := asked }
      refine ⟨.act (.submit .snapshot) :: moves,
        List.forall_mem_cons.2 ⟨Or.inl rfl, hkinds⟩, ?_⟩
      rw [afterAll, List.foldl_cons, hasked, ← afterAll, ← hmoves]

end EngineRun

/-- A course goes on by single moves that are always allowed. -/
lemma Course.afterAll {Allows : EngineRun → EngineMove → Prop} {start run : EngineRun}
    {changes : List (State × State)} (h : Course Allows start changes run)
    {moves : List EngineMove} (hsingle : ∀ move ∈ moves, move.IsSingle)
    (hallowed : ∀ move ∈ moves, ∀ run, Allows run move) :
    Course Allows start (changes ++ run.changedBy moves) (run.afterAll moves) := by
  induction moves generalizing run changes with
  | nil =>
    rw [EngineRun.changedBy, List.append_nil]
    exact h
  | cons move moves ih =>
    obtain ⟨hfirst, hlater⟩ := List.forall_mem_cons.1 hsingle
    obtain ⟨hallows, hothers⟩ := List.forall_mem_cons.1 hallowed
    rw [EngineRun.changedBy, ← List.append_assoc]
    exact ih (h.move hfirst (hallows run)) hlater hothers

/-- A new engine is in order. -/
lemma Engine.ordered_of_create {registry : Registry} {policy : Policy} {host : Host}
    {probe : Probe} {e : Engine} (hmade : Engine.create? registry policy host probe = .ok e) :
    e.Ordered host.timers.Counted := by
  unfold create? at hmade
  split at hmade
  · cases hmade
  · obtain rfl := Except.ok.inj hmade
    exact ⟨Rig.sound_init (⟨{}, host, probe⟩ : Rig Probe), id⟩

/-- A new engine with the default plug-in, on a new host. -/
def Engine.plain (policy : Policy) : Engine where
  table := Table.empty
  policy := policy
  host := {}
  pluginName := policy.plugin
  plugin := .standard

lemma Engine.create?_plain {policy : Policy} (hdefault : policy.plugin = defaultPluginName) :
    Engine.create? Registry.standard policy {} {} = .ok (Engine.plain policy) := by
  have hload : Registry.standard.load policy.plugin = .ok .standard := by
    rw [hdefault]
    rfl
  rw [Engine.create?, hload]
  rfl

end DeviceStandby
