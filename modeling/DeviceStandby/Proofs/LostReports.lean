import DeviceStandby.Proofs.DeviceConstraint
import DeviceStandby.Proofs.DeviceFrames
import DeviceStandby.Proofs.Refusals

/-!
# Reports that get lost

A report about an activity is put down first and told then, and only a report that is news is told
at all.  So if the queue is closed the caller gets an error, but what was reported is known from then
on: the same report is no news any more when it is made again, and the queue, open by then, is not
told (`lost_report_is_told_iff_undone`).  What was lost is made up for only after the opposite was
reported; a machine that is blocked because of the activity stays so until then, or until something
else happens (`lost_report_leaves_machine_blocked`).
-/

namespace DeviceStandby

lemma DeviceKind.eq_index_of_ofIndex? {number : Int} {kind : DeviceKind}
    (h : ofIndex? number = some kind) : number = kind.index := by
  unfold ofIndex? at h
  split at h
  · cases h
  · rename_i hnonneg
    obtain ⟨index, rfl⟩ := Int.eq_ofNat_of_zero_le (not_lt.1 hnonneg)
    match index, h with
    | 0, h | 1, h | 2, h =>
      cases h
      rfl

/-- What there is to tell of an activity: nothing if it is known already. -/
def DeviceStates.news (devices : DeviceStates) (kind : DeviceKind) (enabled : Bool) : List Task :=
  if devices.get kind = enabled then [] else [.message (.deviceStateChanged kind.index enabled)]

namespace Engine

/-! ## Posting several tasks -/

section Posting

variable (e : Engine)

/-- The answer to what posts some tasks. -/
def submitAll (tasks : List Task) : Except ServiceError Unit × Engine :=
  if e.host.queue.failing ∧ tasks ≠ [] then (.error (.host HostError.queueClosed.message), e)
  else (.ok (), e.withTasks (e.host.queue.tasks ++ tasks))

@[simp] lemma submitAll_nil : e.submitAll [] = (.ok (), e) := by
  simp [submitAll, withTasks]

lemma submitAll_singleton (task : Task) : e.submitAll [task] = e.submit task := by
  cases hfailing : e.host.queue.failing <;> simp [submitAll, submit, Host.post, hfailing, withTasks]

/-- What cannot be posted at first leaves nothing to be posted then. -/
lemma submitAll_append (first rest : List Task) :
    e.submitAll (first ++ rest) =
      match e.submitAll first with
      | (.error error, e) => (.error error, e)
      | (.ok _, e) => e.submitAll rest := by
  cases first with
  | nil => simp
  | cons task first =>
    cases hfailing : e.host.queue.failing <;> simp [submitAll, hfailing, withTasks]

lemma submitAll_of_open (h : e.host.queue.failing = false) (tasks : List Task) :
    e.submitAll tasks = (.ok (), e.withTasks (e.host.queue.tasks ++ tasks)) := by
  simp [submitAll, h]

end Posting

/-! ## Reports of activities -/

namespace Call

/-- What a call reports of an activity. -/
def observes : Call → Option (DeviceKind × Bool)
  | reportDevice caller number enabled => (Act.reportDevice caller number enabled).observes
  | receive event => event.deviceState
  | _ => none

/-- The tasks that an observation is passed on as, besides what it tells of an activity. -/
def passedOn : Call → List Task
  | receive event => (event.message.map Task.message).toList
  | _ => []

/-- What an observation is passed on as does not tell of an activity. -/
lemma not_mem_passedOn (call : Call) (kind : DeviceKind) (enabled : Bool) :
    Task.message (.deviceStateChanged kind.index enabled) ∉ call.passedOn := by
  intro hmem
  cases call with
  | receive event =>
    rw [passedOn, Option.mem_toList, Option.map_eq_some_iff] at hmem
    obtain ⟨message, hmessage, htask⟩ := hmem
    obtain rfl := Task.message.inj htask
    have hkind : ∀ told, event.message = some told → told.kind ≠ .deviceStateChanged := by
      cases event <;> rintro told ⟨⟩ <;> exact nofun
    exact hkind _ hmessage rfl
  | _ => cases hmem

end Call

section Serving

variable {e : Engine} {call : Call} {kind : DeviceKind} {enabled : Bool}

/-- The engine when it was put down that an activity goes on, or that it does not. -/
def knowing (e : Engine) (kind : DeviceKind) (enabled : Bool) : Engine :=
  { e with host := { e.host with devices := e.host.devices.set kind enabled } }

/-- What is known of an activity already is put down without any change. -/
lemma knowing_of_known (h : e.host.devices.get kind = enabled) : e.knowing kind enabled = e := by
  have hsame : e.host.devices.set kind enabled = e.host.devices := by
    subst h
    cases kind <;> rfl
  rw [knowing, hsame]

lemma recordDevice_eq (e : Engine) (kind : DeviceKind) (enabled : Bool) :
    e.recordDevice kind.index enabled =
      (e.knowing kind enabled).submitAll (e.host.devices.news kind enabled) := by
  simp only [recordDevice, DeviceStates.report, DeviceKind.ofIndex?_index, DeviceStates.news]
  by_cases hknown : e.host.devices.get kind = enabled
  · simp [hknown, knowing]
  · simp [hknown, submitAll_singleton, knowing]

lemma passOn_eq (e : Engine) (event : SystemEvent) :
    e.passOn event = e.submitAll (Call.receive event).passedOn := by
  have hpassed : (Call.receive event).passedOn = (event.message.map Task.message).toList := rfl
  rw [passOn, hpassed]
  cases event.message with
  | none => exact e.submitAll_nil.symm
  | some message => exact (e.submitAll_singleton (.message message)).symm

/-- An engine that is ready puts down what is reported of an activity, and then posts what there is
to tell of it and what the report is passed on as. -/
lemma serve_observing (hready : e.ready = true) (hdenial : call.denial? = none)
    (hobserves : call.observes = some (kind, enabled)) :
    e.serve call =
      outcome ((e.knowing kind enabled).submitAll
        (e.host.devices.news kind enabled ++ call.passedOn)) := by
  cases call with
  | receive event =>
    have hensured : e.ensureReady = .ok () := by rw [ensureReady, if_pos hready]
    have hstate : event.deviceState = some (kind, enabled) := hobserves
    rw [serve, receive_eq, hensured, hstate, submitAll_append]
    dsimp only
    rw [recordDevice_eq]
    rcases (e.knowing kind enabled).submitAll (e.host.devices.news kind enabled) with
      ⟨error | _, posted⟩
    · rfl
    · exact congrArg outcome (posted.passOn_eq event)
  | reportDevice caller number reported =>
    obtain ⟨found, hfound, hreported⟩ := Option.map_eq_some_iff.1 hobserves
    obtain ⟨rfl, rfl⟩ := Prod.mk.inj hreported
    have hpermitted : e.authorize caller none = .ok () := by
      rw [Call.denial?, Call.asker?, Option.bind_some] at hdenial
      cases hcaller : caller.permitted none with
      | error error => simp [hcaller, complaint] at hdenial
      | ok => simp [authorize, ensureReady, hready, hcaller, bind, Except.bind]
    have hunpassed : (Call.reportDevice caller number reported).passedOn = [] := rfl
    rw [hunpassed, List.append_nil, serve, reportDevice, hpermitted,
      DeviceKind.eq_index_of_ofIndex? hfound, recordDevice_eq]
  | _ => cases hobserves

/-- What fails because the queue is closed was not refused. -/
lemma unrefused_of_queueClosed {failed : Engine}
    (hfailed : e.serve call = (some (.host HostError.queueClosed.message), failed)) :
    e.ready = true ∧ call.denial? = none := by
  cases hrefusal : e.refusal? call with
  | some error =>
    have hrejected := e.isRejection_of_refusal hrefusal
    rw [e.serve_of_refusal hrefusal] at hfailed
    obtain ⟨hanswer, -⟩ := Prod.mk.inj hfailed
    obtain rfl := Option.some.inj hanswer
    cases hrejected
  | none =>
    rw [refusal?, Option.or_eq_none_iff, Option.or_eq_none_iff] at hrefusal
    refine ⟨?_, hrefusal.2.1⟩
    cases hready : e.ready with
    | true => rfl
    | false => simp [ensureReady, hready, complaint] at hrefusal

end Serving

/-- An activity is reported, by a call for it or by what the host observes, and the caller is told
that the queue is closed.  Then nothing was posted, but the report was put down.  Whatever happens
until the same call is made once more, with the engine ready and the queue open again: the call
succeeds, and it tells of the activity exactly if the opposite is known by then.  If the opposite was
not reported in between, the call does not tell of it, and nothing else changes that could have the
state machine try again. -/
theorem lost_report_is_told_iff_undone {e failed : Engine} {call : Call} {kind : DeviceKind}
    {enabled : Bool} (hobserves : call.observes = some (kind, enabled))
    (hfailed : e.serve call = (some (.host HostError.queueClosed.message), failed)) :
    failed = e.knowing kind enabled ∧
    ∀ moves : List EngineMove,
      let later := ((EngineRun.begin failed).afterAll moves).engine
      later.ready = true → later.host.queue.failing = false →
      (∃ posted, later.serve call
          = (none, (later.knowing kind enabled).withTasks (later.host.queue.tasks ++ posted)) ∧
        (Task.message (.deviceStateChanged kind.index enabled) ∈ posted ↔
          later.host.devices.get kind = !enabled)) ∧
      ((∀ move ∈ moves, move.observes ≠ some (kind, !enabled)) →
        later.serve call = (none, later.withTasks (later.host.queue.tasks ++ call.passedOn))) := by
  obtain ⟨hready, hdenial⟩ := unrefused_of_queueClosed hfailed
  rw [serve_observing hready hdenial hobserves] at hfailed
  have hknowing : failed = e.knowing kind enabled := by
    unfold submitAll at hfailed
    split at hfailed
    · exact (Prod.mk.inj hfailed).2.symm
    · cases hfailed
  refine ⟨hknowing, fun moves => ?_⟩
  intro later hlater hopen
  have hserve : later.serve call = (none, (later.knowing kind enabled).withTasks
      (later.host.queue.tasks ++ (later.host.devices.news kind enabled ++ call.passedOn))) := by
    have hposted := submitAll_of_open (later.knowing kind enabled) hopen
      (later.host.devices.news kind enabled ++ call.passedOn)
    rw [serve_observing hlater hdenial hobserves, hposted]
    rfl
  refine ⟨⟨_, hserve, ?_⟩, fun hmoves => ?_⟩
  · have hpassed := call.not_mem_passedOn kind enabled
    by_cases hknown : later.host.devices.get kind = enabled
    · simp [DeviceStates.news, hknown, hpassed]
    · simp [DeviceStates.news, Bool.eq_not.2 hknown]
  · have hput : failed.host.devices.get kind = enabled := by
      rw [hknowing, knowing, DeviceStates.get_set, if_pos rfl]
    have hunchanged : ∀ move ∈ moves,
        move.observes ≠ some (kind, !(EngineRun.begin failed).engine.host.devices.get kind) := by
      rwa [EngineRun.begin, hput]
    have hkept : later.host.devices.get kind = enabled :=
      (EngineRun.get_afterAll hunchanged).trans hput
    rw [hserve, DeviceStates.news, if_pos hkept, List.nil_append, knowing_of_known hkept]

/-! ## A call that ends unheard -/

/-- At dusk a call is going on when it is time to nap. -/
def duskCall : List EngineMove :=
  EngineMove.dusk ++ [.act .handleNext, .act (.receive (.callStateChanged 0)), .act .handleNext,
    .heed ⟨2, 300000, .transitNextState .dark⟩]

/-- It is observed that the call has ended, first with the queue closed, then twice with the queue
open: once again, and once more after another call has begun. -/
theorem lost_report_at_dusk :
    let e := ((EngineRun.begin (Engine.plain (Policy.default {}))).afterAll
      (duskCall ++ [.fail .post true])).engine
    let hungUp := Call.receive (.callStateChanged 8)
    let failed := (e.serve hungUp).2
    let later := ((EngineRun.begin failed).afterAll [.fail .post false]).engine
    let undone := ((EngineRun.begin failed).afterAll
      [.fail .post false, .act (.receive (.callStateChanged 0))]).engine
    later.serve hungUp = (none, later.withTasks (later.host.queue.tasks ++ [])) ∧
      ∃ posted, undone.serve hungUp
          = (none, (undone.knowing .telephone false).withTasks (undone.host.queue.tasks ++ posted)) ∧
        Task.message (.deviceStateChanged 0 false) ∈ posted := by
  intro e hungUp failed later undone
  have hfailed : e.serve hungUp = (some (.host HostError.queueClosed.message), failed) :=
    Prod.ext (by decide +kernel) rfl
  have hobserves : hungUp.observes = some (.telephone, false) := rfl
  obtain ⟨-, hlater⟩ := lost_report_is_told_iff_undone hobserves hfailed
  obtain ⟨-, hunheard⟩ := hlater [.fail .post false] (by decide +kernel) (by decide +kernel)
  obtain ⟨⟨posted, hserve, htold⟩, -⟩ := hlater
    [.fail .post false, .act (.receive (.callStateChanged 0))] (by decide +kernel)
    (by decide +kernel)
  refine ⟨hunheard ?_, posted, hserve, htold.2 (by decide +kernel)⟩
  intro move hmove
  rw [List.mem_singleton.1 hmove]
  exact nofun

/-- The call has ended, which the observer cannot tell as the queue is closed.  When the queue is open
again, the observer tries once more and succeeds, but nothing is in the queue then and the machine
stays blocked; had the queue been open at first, the machine would be blocked no longer. -/
theorem lost_report_leaves_machine_blocked :
    let calling := (EngineRun.begin (Engine.plain (Policy.default {}))).afterAll duskCall
    let hungUp := Call.receive (.callStateChanged 8)
    let lost := (calling.after (.fail .post true)).engine.serve hungUp
    let later := ((EngineRun.begin lost.2).after (.fail .post false)).engine
    calling.engine.machine.blocked = true ∧
      lost.1 = some (.host HostError.queueClosed.message) ∧
      later.ready = true ∧ (later.serve hungUp).1 = none ∧
      (later.serve hungUp).2.host.queue.tasks = [] ∧
      (later.serve hungUp).2.machine.blocked = true ∧
      ((calling.engine.serve hungUp).2.act .handleNext).machine.blocked = false := by
  decide +kernel

end Engine

end DeviceStandby
