import DeviceStandby.Proofs.EngineMachine
import DeviceStandby.Proofs.Ledger

/-!
# Owners are isolated from each other

Owners are told apart by nothing but the keys of their records, and names may hold anything, so that
the app `mail` of the user 12 and the app `2_mail` of the user 1 have keys that look alike.  Yet what
is done in the name of one owner concerns this owner only (`Admission.Confined`): every other owner
has the record that it had, and all that is told or put on record names the one owner.  It rests on
the keys being different (`recordKey_injective`), and on every record standing under the key of its
own owner, because a revocation tells of the owner that it finds in the record.

It holds of the operations on the table, and of the tasks that reach the table through an engine: a
timer that revokes, and the message that an app was removed.  The state machine sees that message
too, but it says nothing on its own then (`Rig.retryIfBlocked_silent`).
-/

namespace DeviceStandby

/-- Different owners have different keys. -/
lemma recordKey_ne {uid uid' : Uid} {name name' : String} (h : (uid', name') ≠ (uid, name)) :
    recordKey uid name ≠ recordKey uid' name' := by
  intro hkey
  obtain ⟨rfl, rfl⟩ := recordKey_injective hkey
  exact h rfl

namespace Admission

/-! ## What concerns one owner only -/

/-- From `a` to `b` nobody but the owner `name` of the user `uid` was concerned: all other owners
have the records that they had, and every change that was told or put on record is one of this
owner. -/
structure Confined (uid : Uid) (name : String) (a b : Admission) : Prop where
  others : ∀ uid' name', (uid', name') ≠ (uid, name) → b.record? uid' name' = a.record? uid' name'
  told : ∃ changes : List Change,
    b.host.queue.tasks = a.host.queue.tasks ++ changes.map Change.task ∧
      ∀ change ∈ changes, change.uid = uid ∧ change.name = name
  recorded : ∃ changes : List Change,
    b.host.store.events = a.host.store.events ++ changes.map Change.event ∧
      ∀ change ∈ changes, change.uid = uid ∧ change.name = name

namespace Confined

variable {uid : Uid} {name : String} {a b c : Admission}

/-- Nothing is told or put on record. -/
lemma of_silent
    (hothers : ∀ uid' name', (uid', name') ≠ (uid, name) →
      b.record? uid' name' = a.record? uid' name')
    (hqueue : b.host.queue = a.host.queue) (htrail : b.host.store.trail = a.host.store.trail) :
    Confined uid name a b where
  others := hothers
  told := ⟨[], by simp [hqueue], by simp⟩
  recorded := ⟨[], by simp [Store.events, htrail], by simp⟩

lemma refl (a : Admission) : Confined uid name a a := of_silent (fun _ _ _ => rfl) rfl rfl

lemma trans (first : Confined uid name a b) (second : Confined uid name b c) :
    Confined uid name a c where
  others := fun uid' name' h => (second.others uid' name' h).trans (first.others uid' name' h)
  told := by
    obtain ⟨changes, htasks, howner⟩ := first.told
    obtain ⟨more, htasks', howner'⟩ := second.told
    refine ⟨changes ++ more, ?_, List.forall_mem_append.2 ⟨howner, howner'⟩⟩
    rw [htasks', htasks, List.map_append, List.append_assoc]
  recorded := by
    obtain ⟨changes, hevents, howner⟩ := first.recorded
    obtain ⟨more, hevents', howner'⟩ := second.recorded
    refine ⟨changes ++ more, ?_, List.forall_mem_append.2 ⟨howner, howner'⟩⟩
    rw [hevents', hevents, List.map_append, List.append_assoc]

/-- A change of the owner is told and put on record, as far as the queue and the trail take it. -/
lemma notify (a : Admission) (uid : Uid) (name : String) (mask : Mask) (added : Bool) :
    Confined uid name a (a.notify uid name mask added) where
  others := fun _ _ _ => rfl
  told := by
    refine ⟨if a.host.queue.failing then [] else [⟨uid, name, mask, added⟩], ?_, ?_⟩
    · rw [(a.worked_notify (fun _ => True) uid name mask added).posted, Host.heard]
      split <;> rfl
    · intro change hmem
      split at hmem
      · cases hmem
      · exact List.mem_singleton.1 hmem ▸ ⟨rfl, rfl⟩
  recorded := by
    refine ⟨if a.host.store.failAudit then [] else [⟨uid, name, mask, added⟩], ?_, ?_⟩
    · rw [Admission.notify, Host.audit_events, Host.announce_store]
      split <;> rfl
    · intro change hmem
      split at hmem
      · cases hmem
      · exact List.mem_singleton.1 hmem ▸ ⟨rfl, rfl⟩

end Confined

/-! ## Operations -/

variable {a : Admission}

/-- A revocation finds nobody but the owner under the owner's key. -/
lemma confined_revoke (htable : a.table.WellFormed) (uid : Uid) (name : String) (mask : Mask)
    (force : Bool) : Confined uid name a (a.revoke uid name mask force) := by
  unfold revoke
  rcases h : revokeEntries a.table (recordKey uid name) mask force a.host.now with
    ⟨_ | revoked, table⟩
  · exact .refl a
  · obtain ⟨record, hget, -, rfl, htaken⟩ :=
      revokeEntries_some (fun record hget => (htable.sound _ record hget).2) h
    obtain ⟨rfl, rfl⟩ := recordKey_injective (htable _ record hget).1
    have hsaved : Confined record.uid record.name a (persist { a with table }) := by
      refine .of_silent (fun uid' name' hne => ?_) (by simp [persist]) (by simp [persist])
      have hkey := recordKey_ne hne
      show table.get? _ = a.table.get? _
      rw [htaken]
      split
      · rw [Table.get?_erase, if_neg hkey]
      · rw [Table.get?_insert, if_neg hkey]
    exact hsaved.trans (.notify _ _ _ _ _)

/-- A grant writes under the key of its owner, and tells of this owner. -/
lemma confined_grantKinds (a : Admission) (request : Request) (mask : Mask) (pid : Pid) :
    Confined request.uid request.name a (a.grantKinds request mask pid) := by
  have hsaved : Confined request.uid request.name a (a.grantSaved request mask pid) := by
    refine .of_silent (fun uid' name' hne => ?_) ?_ ?_
    · have hkey := recordKey_ne hne
      rw [record?, grantSaved_table, tableAfter]
      split
      · rw [Table.get?_erase, if_neg hkey, record?]
      · rw [Table.get?_insert, if_neg hkey, record?]
    · unfold grantSaved
      split <;> simp [persist]
    · unfold grantSaved
      split <;> simp [persist]
  rw [grantKinds_eq]
  split
  · exact hsaved
  · exact hsaved.trans (.notify _ _ _ _ _)

/-- A request that is refused concerns nobody. -/
lemma confined_grant (a : Admission) (request : Request) (pid : Pid) :
    Confined request.uid request.name a (a.grant request pid).2 := by
  rcases a.grant_cases request pid with ⟨error, hrefused⟩ | ⟨mask, -, -, -, hgrant⟩
  · rw [hrefused]
    exact .refl a
  · rw [hgrant]
    exact a.confined_grantKinds request mask pid

lemma confined_unapply (htable : a.table.WellFormed) (request : Request) :
    Confined request.uid request.name a (a.unapply request).2 := by
  rcases a.unapply_cases request with ⟨error, hrefused⟩ | ⟨-, hrevoke⟩
  · rw [hrefused]
    exact .refl a
  · rw [hrevoke]
    exact confined_revoke htable _ _ _ true

end Admission

/-- The owner that an operation names, if it names one. -/
def Operation.owner? : Operation → Option (Uid × String)
  | .grant request _ | .unapply request => some (request.uid, request.name)
  | .revoke uid name _ _ | .removeApp uid name _ | .expire uid name _ => some (uid, name)
  | .allowList _ _ | .restrictSet _ _ _ => none

namespace Admission

variable {a : Admission} {uid : Uid} {name : String}

lemma confined_perform (htable : a.table.WellFormed) {operation : Operation}
    (howner : operation.owner? = some (uid, name)) :
    Confined uid name a (a.perform operation) := by
  cases operation with
  | grant request pid =>
    obtain ⟨rfl, rfl⟩ := Prod.mk.inj (Option.some.inj howner)
    exact a.confined_grant request pid
  | unapply request =>
    obtain ⟨rfl, rfl⟩ := Prod.mk.inj (Option.some.inj howner)
    exact confined_unapply htable request
  | revoke uid' name' mask force =>
    obtain ⟨rfl, rfl⟩ := Prod.mk.inj (Option.some.inj howner)
    exact confined_revoke htable uid' name' mask force
  | removeApp uid' name' resetAll =>
    obtain ⟨rfl, rfl⟩ := Prod.mk.inj (Option.some.inj howner)
    exact confined_revoke htable uid' name' (removalMask resetAll) true
  | expire uid' name' mask =>
    obtain ⟨rfl, rfl⟩ := Prod.mk.inj (Option.some.inj howner)
    exact confined_revoke htable uid' name' mask false
  | allowList | restrictSet => cases howner

end Admission

/-! ## Tasks of an engine -/

/-- The owner that a message says was removed; it says so only if it names the owner properly. -/
def Message.removedOwner? (message : Message) : Option (Uid × String) :=
  if message.reports Action.packageRemoved then
    match (message.int? "uid").bind Width.int32.check?, message.text? "name" with
    | some uid, some name => some (uid, name)
    | _, _ => none
  else none

/-- A message says that an owner was removed by the event and by naming the owner. -/
lemma Message.removedOwner?_eq_some {message : Message} {uid : Uid} {name : String}
    (h : message.removedOwner? = some (uid, name)) :
    message.reports Action.packageRemoved = true ∧
      (message.int? "uid").bind Width.int32.check? = some uid ∧
      message.text? "name" = some name := by
  unfold removedOwner? at h
  split at h
  case isTrue hreports =>
    refine ⟨hreports, ?_⟩
    cases huid : (message.int? "uid").bind Width.int32.check? with
    | none =>
      rw [huid] at h
      cases h
    | some found =>
      cases hname : message.text? "name" with
      | none =>
        rw [huid, hname] at h
        cases h
      | some text =>
        rw [huid, hname] at h
        obtain ⟨rfl, rfl⟩ := Prod.mk.inj (Option.some.inj h)
        exact ⟨rfl, rfl⟩
  case isFalse => cases h

/-- The owner whose exemptions a task is about, if it is about one. -/
def Task.owner? : Task → Option (Uid × String)
  | .message body => body.removedOwner?
  | .timer _ (.revokeExpired uid name _) => some (uid, name)
  | .timer _ _ | .evaluationFinished _ | .snapshot => none

/-- The host tells of every removed app by a message that says so, whatever its number and name. -/
lemma SystemEvent.removedOwner?_appUninstalled {uid : Uid} (huid : Width.int32.holds uid = true)
    (name : String) : (SystemEvent.appUninstalled uid name).message.bind Message.removedOwner?
      = some (uid, name) := by
  have hwide : Width.int64.holds uid = true := by
    rw [Width.holds, Bool.and_eq_true, decide_eq_true_iff, decide_eq_true_iff] at huid ⊢
    exact ⟨Int.le_trans (by decide) huid.1, Int.le_trans huid.2 (by decide)⟩
  simp [SystemEvent.message, Message.removedOwner?, Message.reports, Message.event, Message.int?,
    Message.text?, Table.ofList, Table.get?_insert, Value.text?, Width.check?, huid, hwide]

/-- That an app was removed is for the state machine only an occasion to leave a block. -/
lemma Rig.handleEvent_of_packageRemoved {σ : Type} {judge : Constraint σ} {policy : Policy}
    {rig : Rig σ} {message : Message} (h : message.reports Action.packageRemoved = true) :
    rig.handleEvent judge policy message = rig.retryIfBlocked policy := by
  obtain ⟨hkind, haction⟩ := Bool.and_eq_true_iff.1 h
  rw [handleEvent, of_decide_eq_true hkind, of_decide_eq_true haction]
  rfl

/-- The state machine neither tells anything nor puts anything on record when it enters once more
the state in which it is blocked. -/
lemma Rig.retryIfBlocked_silent {σ : Type} (policy : Policy) (rig : Rig σ) :
    (rig.retryIfBlocked policy).host.queue = rig.host.queue ∧
      (rig.retryIfBlocked policy).host.store = rig.host.store := by
  unfold retryIfBlocked
  split
  case isTrue =>
    rcases retry_cases policy rig with ⟨-, hrefused⟩ | hentered
    · rw [hrefused]
      exact ⟨rig.cancelTimers_queue, rig.cancelTimers_store⟩
    · exact ⟨by rw [hentered.queue, if_pos rfl], by rw [hentered.store, if_pos rfl]⟩
  case isFalse => exact ⟨rfl, rfl⟩

namespace Engine

variable {e : Engine} {uid : Uid} {name : String} {message : Message}

/-- The engine forgets the owner that was removed, and no other. -/
lemma keepHouse_of_removedOwner? (h : message.removedOwner? = some (uid, name)) :
    e.keepHouse message = e.withAdmission (e.toAdmission.removeApp uid name true) := by
  obtain ⟨hreports, huid, hname⟩ := Message.removedOwner?_eq_some h
  unfold keepHouse
  rw [if_pos hreports, huid, hname]

/-- A ready engine that is told that an owner was removed takes all exemptions from this owner; the
state machine, which hears of it first, tells nothing. -/
lemma deliver_of_removedOwner? (hready : e.ready = true)
    (howner : message.removedOwner? = some (uid, name)) : ∃ a : Admission,
      (e.deliver message).toAdmission = a.removeApp uid name true ∧ a.table = e.table ∧
        a.host.queue = e.host.queue ∧ a.host.store = e.host.store := by
  obtain ⟨probe, last, hdeliver⟩ := deliver_eq hready message
  dsimp only at hdeliver
  rw [keepHouse_of_removedOwner? howner,
    Rig.handleEvent_of_packageRemoved (Message.removedOwner?_eq_some howner).1] at hdeliver
  obtain ⟨hqueue, hstore⟩ := Rig.retryIfBlocked_silent e.policy ⟨e.machine, e.host, probe⟩
  refine ⟨{ e.toAdmission with
    host := (Rig.retryIfBlocked e.policy ⟨e.machine, e.host, probe⟩).host }, ?_, rfl, hqueue,
    hstore⟩
  rw [hdeliver]
  rfl

lemma confined_deliver (htable : e.table.WellFormed)
    (howner : message.removedOwner? = some (uid, name)) :
    Admission.Confined uid name e.toAdmission (e.deliver message).toAdmission := by
  cases hready : e.ready with
  | false =>
    rw [deliver_of_not_ready hready]
    exact .refl e.toAdmission
  | true =>
    obtain ⟨a, hafter, hsame, hqueue, hstore⟩ := deliver_of_removedOwner? hready howner
    have hmachine : Admission.Confined uid name e.toAdmission a :=
      .of_silent (fun _ _ _ => by rw [Admission.record?, Admission.record?, hsame]) hqueue
        (congrArg Store.trail hstore)
    rw [hafter]
    exact hmachine.trans
      (Admission.confined_revoke (hsame ▸ htable) uid name (Admission.removalMask true) true)

end Engine

/-- Owners are isolated from each other: from a well-formed table, whatever an operation does that
names an owner, and whatever an engine does for a timer that revokes an owner's exemptions or a
message that an app was removed, it concerns this owner only.  Names and numbers may be any. -/
theorem owners_isolated :
    (∀ (a : Admission) (operation : Operation) (uid : Uid) (name : String),
      a.table.WellFormed → operation.owner? = some (uid, name) →
      Admission.Confined uid name a (a.perform operation)) ∧
    ∀ (e : Engine) (task : Task) (uid : Uid) (name : String),
      e.table.WellFormed → task.owner? = some (uid, name) →
      Admission.Confined uid name e.toAdmission (e.handle task).toAdmission := by
  constructor
  · intro a operation uid name htable howner
    exact Admission.confined_perform htable howner
  · intro e task uid name htable howner
    cases task with
    | message body => exact Engine.confined_deliver htable howner
    | timer id task =>
      cases task with
      | revokeExpired uid' name' mask =>
        obtain ⟨rfl, rfl⟩ := Prod.mk.inj (Option.some.inj howner)
        exact Admission.confined_revoke htable uid' name' mask false
      | transitNextState | transitNextPhase | dayNightSwitch => cases howner
    | evaluationFinished | snapshot => cases howner

/-! ## Owners with similar keys -/

/-- The app `mail` of the user 12, the app `2_mail` of the user 1 and an app without a name of the
user 12 are all exempted. -/
def Admission.forNamesakes : Admission :=
  Admission.forMail.run [.operate (.grant { mailRequest with uid := 12 } 77),
    .operate (.grant { mailRequest with uid := 1, name := "2_mail" } 78),
    .operate (.grant { mailRequest with uid := 12, name := "" } 79), .advance 61000]

lemma Admission.forNamesakes_wellFormed : forNamesakes.table.WellFormed :=
  run_wellFormed _ _ .empty

/-- The app `mail` loses what it has: an exemption to a timer, and then all to its removal; the
owners with similar keys keep theirs. -/
theorem namesakes_isolated :
    let a := Admission.forNamesakes
    let e := { Engine.forMail {} with toAdmission := a, ready := true }
    let expired := e.handle (.timer 1 (.revokeExpired 12 "mail" mailRequest.mask))
    let removed := expired.handle
      (.message (.event Action.packageRemoved [("uid", .int 12), ("name", .text "mail")]))
    a.table.entries.map Prod.fst = ["12_", "12_mail", "1_2_mail"] ∧
      ((expired.record? 12 "mail").map Record.mask = some Resource.workScheduler.bit) ∧
      removed.record? 12 "mail" = none ∧
      removed.record? 1 "2_mail" = a.record? 1 "2_mail" ∧
      removed.record? 12 "" = a.record? 12 "" ∧
      Admission.Confined 12 "mail" expired.toAdmission removed.toAdmission ∧
      Admission.Confined 12 "mail" a
        (a.perform (.grant { mailRequest with uid := 12, durationSecs := 900 } 77)) := by
  intro a e expired removed
  obtain ⟨hperform, hhandle⟩ := owners_isolated
  have htimer : Admission.Confined 12 "mail" a expired.toAdmission :=
    hhandle e _ 12 "mail" Admission.forNamesakes_wellFormed rfl
  have hexpired : expired.table.WellFormed :=
    a.perform_wellFormed (.expire 12 "mail" mailRequest.mask) Admission.forNamesakes_wellFormed
  have hremoved : Admission.Confined 12 "mail" expired.toAdmission removed.toAdmission :=
    hhandle expired _ 12 "mail" hexpired
      (SystemEvent.removedOwner?_appUninstalled (by decide) "mail")
  have hboth := htimer.trans hremoved
  refine ⟨by decide +kernel, by decide +kernel, by decide +kernel, ?_, ?_, hremoved, ?_⟩
  · exact hboth.others 1 "2_mail" (by decide)
  · exact hboth.others 12 "" (by decide)
  · exact hperform a _ 12 "mail" Admission.forNamesakes_wellFormed rfl

end DeviceStandby
