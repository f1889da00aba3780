import DeviceStandby.Proofs.Operations

/-!
# The changes that are told make a ledger of the table

Whenever an owner gains or loses exemptions, a message tells which.  Someone who knows the masks of
all owners at some time, and then changes them as the messages say (`replay`), knows the masks of
the table ever after: no change is left untold, none is told twice, and none is told that is not one
(`messages_are_ledger_of_table`).

The audit trail takes the same changes in the same order.  A trail that does not take an event
misses it for good, and the service carries on; only if that never happens the trail is complete.
-/

namespace DeviceStandby

/-- What an owner gained or lost. -/
structure Change where
  uid : Uid
  name : String
  mask : Mask
  added : Bool

/-- The masks of all owners. -/
abbrev OwnerMasks := Uid → String → Mask

/-- The mask of every owner, empty if there is no record. -/
def RecordTable.masks (table : RecordTable) : OwnerMasks := fun uid name =>
  ((table.get? (recordKey uid name)).map Record.mask).getD 0

lemma Message.params_allowListChanged (uid : Uid) (name : String) (mask : Mask) (added : Bool) :
    (allowListChanged uid name mask added).params.get? "uid" = some (.int uid) ∧
      (allowListChanged uid name mask added).params.get? "name" = some (.text name) ∧
      (allowListChanged uid name mask added).params.get? "allowType" = some mask.toValue ∧
      (allowListChanged uid name mask added).params.get? "added" = some (.bool added) := by
  simp [allowListChanged, of, Table.ofList, Table.get?_insert]

namespace Change

/-- The message that tells of a change. -/
def task (change : Change) : Task :=
  .message (.allowListChanged change.uid change.name change.mask change.added)

/-- A message tells everything of a change. -/
lemma task_injective : Function.Injective task := by
  rintro ⟨uid, name, mask, added⟩ ⟨uid', name', mask', added'⟩ h
  obtain ⟨huid, hname, hmask, hadded⟩ := Message.params_allowListChanged uid name mask added
  obtain ⟨huid', hname', hmask', hadded'⟩ :=
    Message.params_allowListChanged uid' name' mask' added'
  have hmessage : Message.allowListChanged uid name mask added
      = Message.allowListChanged uid' name' mask' added' := Task.message.inj h
  rw [← hmessage] at huid' hname' hmask' hadded'
  obtain rfl : uid = uid' := by simpa using huid.symm.trans huid'
  obtain rfl : name = name' := by simpa using hname.symm.trans hname'
  obtain rfl : added = added' := by simpa using hadded.symm.trans hadded'
  have hnumber : (mask.toNat : Int) = mask'.toNat := by
    simpa [Mask.toValue] using hmask.symm.trans hmask'
  rw [BitVec.eq_of_toNat_eq (Int.ofNat.inj hnumber)]

/-- What the audit trail says of a change. -/
def event (change : Change) : AuditEvent :=
  if change.added then .allowGranted change.uid change.name change.mask
  else .allowRevoked change.uid change.name change.mask

/-- The masks after a change: that of its owner gains or loses the bits, and all others stay. -/
def apply (change : Change) (masks : OwnerMasks) : OwnerMasks := fun uid name =>
  if uid = change.uid ∧ name = change.name then
    if change.added then masks uid name ||| change.mask else (masks uid name).without change.mask
  else masks uid name

/-- The change is about some kinds, and about none that the owner had already if it is a gain, or
did not have if it is a loss. -/
def Exact (change : Change) (masks : OwnerMasks) : Prop :=
  change.mask ≠ 0 ∧
    if change.added then masks change.uid change.name &&& change.mask = 0
    else masks change.uid change.name &&& change.mask = change.mask

end Change

/-- The masks after some changes, one after the other. -/
def replay (masks : OwnerMasks) (changes : List Change) : OwnerMasks :=
  changes.foldl (fun masks change => change.apply masks) masks

/-! ## Ledgers -/

/-- The changes lead from some masks to others, and each is exact when it is its turn. -/
inductive Ledger : OwnerMasks → List Change → OwnerMasks → Prop where
  | nil (masks : OwnerMasks) : Ledger masks [] masks
  | cons {masks last : OwnerMasks} {change : Change} {rest : List Change}
      (first : change.Exact masks) (tail : Ledger (change.apply masks) rest last) :
      Ledger masks (change :: rest) last

namespace Ledger

variable {masks middle last : OwnerMasks} {changes more : List Change}

lemma append (first : Ledger masks changes middle) (second : Ledger middle more last) :
    Ledger masks (changes ++ more) last := by
  induction first with
  | nil => exact second
  | cons head _ ih => exact .cons head (ih second)

lemma single {change : Change} (h : change.Exact masks) (hlast : change.apply masks = last) :
    Ledger masks [change] last :=
  .cons h (hlast ▸ .nil _)

lemma replay_eq (h : Ledger masks changes last) : replay masks changes = last := by
  induction h with
  | nil => rfl
  | cons _ _ ih => exact ih

/-- Every change of a ledger is exact when the ones before it have been replayed. -/
lemma exact_of_split (h : Ledger masks changes last) {before after : List Change} {change : Change}
    (hsplit : changes = before ++ change :: after) : change.Exact (replay masks before) := by
  induction h generalizing before with
  | nil => simp at hsplit
  | cons head _ ih =>
    cases before with
    | nil =>
      obtain ⟨rfl, -⟩ := List.cons.inj hsplit
      exact head
    | cons first before =>
      obtain ⟨rfl, hrest⟩ := List.cons.inj hsplit
      exact ih hrest

end Ledger

/-! ## Masks of tables -/

namespace RecordTable

variable {table : RecordTable} {uid : Uid} {name : String} {record : Record}

lemma masks_of_get? (h : table.get? (recordKey uid name) = some record) :
    table.masks uid name = record.mask := by
  rw [masks, h]
  rfl

lemma masks_insert : RecordTable.masks (Table.insert table (recordKey uid name) record) =
    fun other otherName =>
      if other = uid ∧ otherName = name then record.mask else table.masks other otherName := by
  funext other otherName
  simp only [masks, Table.get?_insert, recordKey_inj, eq_comm (a := uid), eq_comm (a := name)]
  split <;> rfl

lemma masks_erase : RecordTable.masks (Table.erase table (recordKey uid name)) =
    fun other otherName =>
      if other = uid ∧ otherName = name then 0 else table.masks other otherName := by
  funext other otherName
  simp only [masks, Table.get?_erase, recordKey_inj, eq_comm (a := uid), eq_comm (a := name)]
  split <;> rfl

end RecordTable

/-! ## Losses -/

/-- What an owner lost, as it is told. -/
def Revoked.change (revoked : Revoked) : Change :=
  ⟨revoked.uid, revoked.name, revoked.removed, false⟩

/-- The bits of some entries of a sound record are bits of its mask. -/
lemma Record.Sound.mask_and_filter {record : Record} (h : record.Sound) (gone : Entry → Bool) :
    record.mask &&& DeviceStandby.entriesMask (record.entries.filter gone)
      = DeviceStandby.entriesMask (record.entries.filter gone) := by
  refine BitVec.eq_of_getLsbD_eq (fun i _ => ?_)
  rw [BitVec.getLsbD_and, Bool.and_eq_right_iff_imp, h.getLsbD_filter, h.getLsbD_mask]
  rintro ⟨entry, hmem, -, hindex⟩
  exact ⟨entry, hmem, hindex⟩

/-- Entries that are taken out of a sound record are an exact loss of its owner. -/
lemma revokeEntries_ledger {table next : RecordTable} {key : String} {mask : Mask} {force : Bool}
    {now : Int} {revoked : Revoked} (htable : table.Holds Record.Sound)
    (h : revokeEntries table key mask force now = (some revoked, next)) :
    Ledger table.masks [revoked.change] next.masks := by
  obtain ⟨record, hget, hgone, rfl, rfl⟩ :=
    revokeEntries_some (fun record hget => (htable _ record hget).2) h
  obtain ⟨rfl, hsound⟩ := htable _ record hget
  have hmask := RecordTable.masks_of_get? hget
  have hleft := hsound.without_eq (fun entry => entry.isRevoked mask force now)
  refine .single ⟨?_, ?_⟩ ?_
  · exact fun hzero => hgone ((hsound.entriesMask_filter_eq_zero _).1 hzero)
  · show table.masks record.uid record.name &&& _ = _
    rw [hmask]
    exact hsound.mask_and_filter _
  · -- With or without a record, the owner is left with the bits of the other entries.
    funext uid name
    have hnext : RecordTable.masks (if record.entries.filter
          (fun entry => !entry.isRevoked mask force now) = []
        then Table.erase table (recordKey record.uid record.name)
        else Table.insert table (recordKey record.uid record.name)
          (record.keepOnly (fun entry => !entry.isRevoked mask force now))) uid name =
        if uid = record.uid ∧ name = record.name then
          entriesMask (record.entries.filter (fun entry => !entry.isRevoked mask force now))
        else table.masks uid name := by
      split
      case isTrue hnil => rw [RecordTable.masks_erase, hnil]; rfl
      case isFalse => rw [RecordTable.masks_insert]; rfl
    rw [hnext, ← hleft, ← hmask]
    show (if uid = record.uid ∧ name = record.name then _ else _) = _
    split
    case isTrue howner => rw [howner.1, howner.2]; rfl
    case isFalse => rfl

lemma Revocation.ledger {now : Int} {table last : RecordTable} {reaped : List Revoked}
    (h : Revocation now table reaped last) (htable : table.Holds Record.Sound) :
    Ledger table.masks (reaped.map Revoked.change) last.masks := by
  induction h with
  | done table => exact .nil table.masks
  | @step table next last key mask force revoked rest first _ ih =>
    have hnext : next.Holds Record.Sound :=
      (Revocation.step first (.done next)).holds (fun _ h => h) (fun _ keep h _ => h.keepOnly keep)
        htable
    exact (revokeEntries_ledger htable first).append (ih hnext)

/-! ## Gains -/

namespace Admission

variable (a : Admission) (request : Request) (mask : Mask) (pid : Pid)

lemma masks_recordBefore :
    a.table.masks request.uid request.name = (a.recordBefore request pid).mask := by
  unfold recordBefore RecordTable.masks
  cases a.table.get? (recordKey request.uid request.name) <;> rfl

/-- After a grant the owner has the mask of the new record, and all other masks are as they were. -/
lemma masks_tableAfter : (a.tableAfter request mask pid).masks = fun uid name =>
    if uid = request.uid ∧ name = request.name then (a.recordAfter request mask pid).mask
    else a.table.masks uid name := by
  rw [tableAfter]
  split
  case isTrue hzero => rw [RecordTable.masks_erase, hzero]
  case isFalse => rw [RecordTable.masks_insert]

/-- No kind is lost by a grant. -/
lemma recordBefore_and_recordAfter :
    (a.recordBefore request pid).mask &&& (a.recordAfter request mask pid).mask
      = (a.recordBefore request pid).mask := by
  refine BitVec.eq_of_getLsbD_eq (fun i _ => ?_)
  rw [BitVec.getLsbD_and, Bool.and_eq_left_iff_imp, recordAfter_mask]
  exact Record.getLsbD_mask_extendAll

/-- What a grant adds are the kinds that the owner has then and did not have before. -/
lemma getLsbD_addedMask (i : Nat) : (a.addedMask request mask pid).getLsbD i =
    ((a.recordAfter request mask pid).mask.getLsbD i
      && !(a.recordBefore request pid).mask.getLsbD i) := by
  have hkept := congrArg (fun mask => BitVec.getLsbD mask i)
    (a.recordBefore_and_recordAfter request mask pid)
  rw [addedMask, BitVec.getLsbD_xor]
  simp only [BitVec.getLsbD_and] at hkept ⊢
  cases hafter : (a.recordAfter request mask pid).mask.getLsbD i <;> simp_all

lemma recordBefore_or_addedMask :
    (a.recordBefore request pid).mask ||| a.addedMask request mask pid
      = (a.recordAfter request mask pid).mask := by
  refine BitVec.eq_of_getLsbD_eq (fun i _ => ?_)
  rw [BitVec.getLsbD_or, getLsbD_addedMask]
  cases hbefore : (a.recordBefore request pid).mask.getLsbD i with
  | false => simp
  | true =>
    rw [recordAfter_mask, Record.getLsbD_mask_extendAll hbefore]
    rfl

lemma recordBefore_and_addedMask :
    (a.recordBefore request pid).mask &&& a.addedMask request mask pid = 0 := by
  refine Mask.eq_zero_iff.2 (fun i => ?_)
  rw [BitVec.getLsbD_and, getLsbD_addedMask]
  cases (a.recordBefore request pid).mask.getLsbD i <;> simp

/-- A grant is an exact gain of the owner, or changes no mask. -/
lemma grantKinds_ledger : Ledger a.table.masks
    (if a.addedMask request mask pid = 0 then []
      else [⟨request.uid, request.name, a.addedMask request mask pid, true⟩])
    (a.grantKinds request mask pid).table.masks := by
  have hbefore := a.masks_recordBefore request pid
  rw [grantKinds_table, masks_tableAfter, ← recordBefore_or_addedMask]
  split
  case isTrue hzero =>
    have hsame : (fun uid name => if uid = request.uid ∧ name = request.name then
        (a.recordBefore request pid).mask ||| a.addedMask request mask pid
        else a.table.masks uid name) = a.table.masks := by
      funext uid name
      split
      case isTrue howner =>
        rw [howner.1, howner.2, hbefore, hzero]
        exact BitVec.or_zero
      case isFalse => rfl
    rw [hsame]
    exact .nil _
  case isFalse hadded =>
    refine .single ⟨hadded, ?_⟩ ?_
    · show a.table.masks request.uid request.name &&& _ = 0
      rw [hbefore]
      exact a.recordBefore_and_addedMask request mask pid
    · funext uid name
      show (if uid = request.uid ∧ name = request.name then _ else _) = _
      split
      case isTrue howner => rw [howner.1, howner.2, hbefore]; rfl
      case isFalse => rfl

end Admission

/-! ## What is told -/

/-- From `a` to `b` these changes were told; an audit trail that fails took none of them. -/
structure Told (a b : Admission) (changes : List Change) : Prop where
  tasks : b.host.queue.tasks = a.host.queue.tasks ++ changes.map Change.task
  events : b.host.store.events = a.host.store.events ++
    (if a.host.store.failAudit then [] else changes).map Change.event
  posting : b.host.queue.failing = a.host.queue.failing
  auditing : b.host.store.failAudit = a.host.store.failAudit

namespace Told

variable {a b c : Admission} {changes more : List Change}

lemma nothing (hqueue : b.host.queue = a.host.queue)
    (htrail : b.host.store.trail = a.host.store.trail)
    (hauditing : b.host.store.failAudit = a.host.store.failAudit) : Told a b [] where
  tasks := by simp [hqueue]
  events := by simp [Store.events, htrail]
  posting := by rw [hqueue]
  auditing := hauditing

lemma trans (first : Told a b changes) (second : Told b c more) : Told a c (changes ++ more) where
  tasks := by rw [second.tasks, first.tasks, List.map_append, List.append_assoc]
  events := by
    rw [second.events, first.events, first.auditing, List.append_assoc, ← List.map_append]
    split <;> rfl
  posting := second.posting.trans first.posting
  auditing := second.auditing.trans first.auditing

lemma notify (hposting : a.host.queue.failing = false) (uid : Uid) (name : String) (mask : Mask)
    (added : Bool) : Told a (a.notify uid name mask added) [⟨uid, name, mask, added⟩] where
  tasks := Host.announce_tasks _ _ hposting
  events := by
    rw [Admission.notify, Host.audit_events, Host.announce_store]
    split <;> rfl
  posting := by simp [Admission.notify]
  auditing := by simp [Admission.notify]

lemma settle (hposting : a.host.queue.failing = false) (table : RecordTable)
    (reaped : List Revoked) : Told a (a.settle table reaped) (reaped.map Revoked.change) := by
  have htold : ∀ (reaped : List Revoked) (b : Admission), b.host.queue.failing = false →
      Told b (reaped.foldl (fun b revoked =>
        b.notify revoked.uid revoked.name revoked.removed false) b)
        (reaped.map Revoked.change) := by
    intro reaped
    induction reaped with
    | nil => exact fun b _ => nothing rfl rfl rfl
    | cons revoked reaped ih =>
      intro b hb
      have hfirst := notify hb revoked.uid revoked.name revoked.removed false
      exact hfirst.trans (ih _ (hfirst.posting.trans hb))
  have hsettled : Told a (a.settled table reaped) [] := by
    unfold Admission.settled
    split
    · exact nothing rfl rfl rfl
    · exact nothing (by simp [Admission.persist]) (by simp [Admission.persist])
        (by simp [Admission.persist])
  exact hsettled.trans (htold reaped _ (hsettled.posting.trans hposting))

/-- A grant tells of what it adds, if there is anything. -/
lemma grantKinds (hposting : a.host.queue.failing = false) (request : Request) (mask : Mask)
    (pid : Pid) : Told a (a.grantKinds request mask pid)
      (if a.addedMask request mask pid = 0 then []
        else [⟨request.uid, request.name, a.addedMask request mask pid, true⟩]) := by
  have hsaved : Told a (a.grantSaved request mask pid) [] := by
    unfold Admission.grantSaved
    split
    · exact nothing (by simp) (by simp) (by simp)
    · exact nothing (by simp [Admission.persist]) (by simp [Admission.persist])
        (by simp [Admission.persist])
  rw [Admission.grantKinds_eq]
  split
  case isTrue => exact hsaved
  case isFalse => exact hsaved.trans (notify (hsaved.posting.trans hposting) _ _ _ _)

end Told

/-! ## Runs -/

namespace Admission

variable {a : Admission}

lemma perform_sound (operation : Operation) (h : a.table.Holds Record.Sound) :
    (a.perform operation).table.Holds Record.Sound := by
  refine perform_holds (fun _ hsound => hsound) (fun _ keep hsound _ => hsound.keepOnly keep)
    operation ?_ h
  exact fun _ _ _ _ _ _ _ => recordAfter_sound h

/-- Every operation tells a ledger of what it does to the masks. -/
lemma perform_ledger (operation : Operation) (htable : a.table.Holds Record.Sound)
    (hposting : a.host.queue.failing = false) :
    ∃ changes, Told a (a.perform operation) changes ∧
      Ledger a.table.masks changes (a.perform operation).table.masks := by
  rcases a.perform_cases operation with
    ⟨request, pid, mask, -, -, -, -, hperform⟩ | ⟨reaped, table, hchain, hperform⟩
  · rw [hperform]
    exact ⟨_, .grantKinds hposting request mask pid, a.grantKinds_ledger request mask pid⟩
  · rw [hperform, settle_table]
    exact ⟨_, .settle hposting table reaped, hchain.ledger htable⟩

/-- Every move leaves the records sound, and lets the queue and the trail take what they are given,
unless it makes one of them fail. -/
lemma move_stays (move : Move) (htable : a.table.Holds Record.Sound)
    (hposting : a.host.queue.failing = false) :
    (a.move move).table.Holds Record.Sound ∧
      (move ≠ .fail .post true → (a.move move).host.queue.failing = false) ∧
      (move ≠ .fail .audit true → a.host.store.failAudit = false →
        (a.move move).host.store.failAudit = false) := by
  cases move with
  | operate operation =>
    obtain ⟨changes, htold, -⟩ := perform_ledger operation htable hposting
    exact ⟨perform_sound operation htable, fun _ => htold.posting.trans hposting,
      fun _ hauditing => htold.auditing.trans hauditing⟩
  | advance | setWall | reload => exact ⟨htable, fun _ => hposting, fun _ hauditing => hauditing⟩
  | fail failing on =>
    refine ⟨htable, fun hposts => ?_, fun haudits hauditing => ?_⟩
    · cases failing <;> cases on <;> first | exact hposting | exact absurd rfl hposts | rfl
    · cases failing <;> cases on <;> first | exact hauditing | exact absurd rfl haudits | rfl

/-- Every move tells a ledger of what it does to the masks. -/
lemma move_ledger (move : Move) (htable : a.table.Holds Record.Sound)
    (hposting : a.host.queue.failing = false) :
    ∃ changes, (a.move move).host.queue.tasks = a.host.queue.tasks ++ changes.map Change.task ∧
      (a.move move).host.store.events = a.host.store.events ++
        (if a.host.store.failAudit then [] else changes).map Change.event ∧
      Ledger a.table.masks changes (a.move move).table.masks := by
  cases move with
  | operate operation =>
    obtain ⟨changes, htold, hledger⟩ := perform_ledger operation htable hposting
    exact ⟨changes, htold.tasks, htold.events, hledger⟩
  | advance | setWall | reload => exact ⟨[], by simp [move], by simp [move], .nil _⟩
  | fail failing on =>
    refine ⟨[], ?_, ?_, .nil _⟩
    · cases failing <;> simp [move, Host.setFailing]
    · cases failing <;> simp [move, Host.setFailing, Store.events]

lemma run_stays (moves : List Move) (htable : a.table.Holds Record.Sound)
    (hposting : a.host.queue.failing = false) (hposts : Move.fail .post true ∉ moves) :
    (a.run moves).table.Holds Record.Sound ∧ (a.run moves).host.queue.failing = false := by
  induction moves generalizing a with
  | nil => exact ⟨htable, hposting⟩
  | cons move moves ih =>
    have hhead : move ≠ .fail .post true := fun heq => hposts (heq ▸ List.mem_cons_self)
    obtain ⟨hsound, hposting', -⟩ := move_stays move htable hposting
    exact ih hsound (hposting' hhead) (fun hmem => hposts (List.mem_cons_of_mem _ hmem))

/-- Every run tells a ledger of what it does to the masks, if the queue takes all messages.  The
audit trail takes the same changes in the same order, and all of them if it never fails. -/
lemma run_ledger (moves : List Move) (htable : a.table.Holds Record.Sound)
    (hposting : a.host.queue.failing = false) (hposts : Move.fail .post true ∉ moves) :
    ∃ changes recorded : List Change,
      (a.run moves).host.queue.tasks = a.host.queue.tasks ++ changes.map Change.task ∧
      (a.run moves).host.store.events = a.host.store.events ++ recorded.map Change.event ∧
      recorded.Sublist changes ∧
      (a.host.store.failAudit = false → Move.fail .audit true ∉ moves → recorded = changes) ∧
      Ledger a.table.masks changes (a.run moves).table.masks := by
  induction moves generalizing a with
  | nil => exact ⟨[], [], by simp, by simp, .slnil, fun _ _ => rfl, .nil _⟩
  | cons move moves ih =>
    have hhead : move ≠ .fail .post true := fun heq => hposts (heq ▸ List.mem_cons_self)
    obtain ⟨hsound, hposting', hauditing'⟩ := move_stays move htable hposting
    obtain ⟨first, htasks, hevents, hledger⟩ := move_ledger move htable hposting
    obtain ⟨more, recorded, hmoreTasks, hmoreEvents, hsublist, hall, hmoreLedger⟩ :=
      ih hsound (hposting' hhead) (fun hmem => hposts (List.mem_cons_of_mem _ hmem))
    refine ⟨first ++ more, (if a.host.store.failAudit then [] else first) ++ recorded, ?_, ?_, ?_,
      ?_, hledger.append hmoreLedger⟩
    · rw [run_cons, hmoreTasks, htasks, List.map_append, List.append_assoc]
    · rw [run_cons, hmoreEvents, hevents, List.map_append, List.append_assoc]
    · refine List.Sublist.append ?_ hsublist
      split
      · exact List.nil_sublist first
      · exact List.Sublist.refl first
    · intro hauditing haudits
      have haudit : move ≠ .fail .audit true := fun heq => haudits (heq ▸ List.mem_cons_self)
      rw [hall (hauditing' haudit hauditing) (fun hmem => haudits (List.mem_cons_of_mem _ hmem)),
        hauditing]
      rfl

/-- What was told up to some point of a run is the beginning of what the run tells, and replaying it
gives the masks at that point. -/
lemma replay_run_of_prefix {earlier moves : List Move} (h : earlier <+: moves)
    (htable : a.table.Holds Record.Sound) (hposting : a.host.queue.failing = false)
    (hposts : Move.fail .post true ∉ moves) {changes : List Change}
    (htasks : (a.run moves).host.queue.tasks = a.host.queue.tasks ++ changes.map Change.task) :
    ∃ told, told <+: changes ∧
      (a.run earlier).host.queue.tasks = a.host.queue.tasks ++ told.map Change.task ∧
      replay a.table.masks told = (a.run earlier).table.masks := by
  obtain ⟨later, rfl⟩ := h
  have hearlier : Move.fail .post true ∉ earlier :=
    fun hmem => hposts (List.mem_append_left _ hmem)
  have hlater : Move.fail .post true ∉ later :=
    fun hmem => hposts (List.mem_append_right _ hmem)
  obtain ⟨hsound, hstill⟩ := run_stays earlier htable hposting hearlier
  obtain ⟨told, -, htold, -, -, -, hledger⟩ := run_ledger earlier htable hposting hearlier
  obtain ⟨rest, -, hrest, -⟩ := run_ledger later hsound hstill hlater
  refine ⟨told, ⟨rest, ?_⟩, htold, hledger.replay_eq⟩
  rw [run_append, hrest, htold, List.append_assoc, ← List.map_append] at htasks
  exact Change.task_injective.list_map (List.append_cancel_left htasks)

end Admission

/-- From any table of sound records, as long as the queue takes all messages, the messages that are
told are a ledger of the table: replaying them from the first masks gives the masks of the table at
the end of a run and at every point of it, each is about some kinds, a gain is about kinds that the
owner did not have and a loss about kinds that the owner had.  The audit trail takes the same
changes in the same order, without those at which it fails, and so all of them if it never does: an
operation puts all that it tells on record, or nothing if the trail fails then. -/
theorem messages_are_ledger_of_table (a : Admission) (moves : List Move)
    (htable : a.table.Holds Record.Sound) (hposting : a.host.queue.failing = false)
    (hposts : Move.fail .post true ∉ moves) :
    (∃ changes recorded : List Change,
      (a.run moves).host.queue.tasks = a.host.queue.tasks ++ changes.map Change.task ∧
      replay a.table.masks changes = (a.run moves).table.masks ∧
      (∀ earlier, earlier <+: moves → ∃ told, told <+: changes ∧
        (a.run earlier).host.queue.tasks = a.host.queue.tasks ++ told.map Change.task ∧
        replay a.table.masks told = (a.run earlier).table.masks) ∧
      (∀ before change after, changes = before ++ change :: after →
        change.Exact (replay a.table.masks before)) ∧
      (a.run moves).host.store.events = a.host.store.events ++ recorded.map Change.event ∧
      recorded.Sublist changes ∧
      (a.host.store.failAudit = false → Move.fail .audit true ∉ moves → recorded = changes)) ∧
    ∀ operation, ∃ changes, Told (a.run moves) ((a.run moves).perform operation) changes := by
  constructor
  · obtain ⟨changes, recorded, htasks, hevents, hsublist, hall, hledger⟩ :=
      a.run_ledger moves htable hposting hposts
    refine ⟨changes, recorded, htasks, hledger.replay_eq, ?_, ?_, hevents, hsublist, hall⟩
    · exact fun earlier h => Admission.replay_run_of_prefix h htable hposting hposts htasks
    · exact fun before change after hsplit => hledger.exact_of_split hsplit
  · intro operation
    obtain ⟨hsound, hstill⟩ := a.run_stays moves htable hposting hposts
    obtain ⟨changes, htold, -⟩ := Admission.perform_ledger operation hsound hstill
    exact ⟨changes, htold⟩

/-- The grant to `mail` and the loss of its exemption from the network are told, and put on record
as they are told. -/
theorem messages_are_ledger_of_table_of_mail :
    let moves : List Move := [.operate (.grant mailRequest 77), .advance 61000,
      .operate (.allowList Mask.known .app)]
    let b := Admission.forMail.run moves
    ∃ changes : List Change, changes.length = 2 ∧
      b.host.queue.tasks = changes.map Change.task ∧
      replay (fun _ _ => 0) changes = b.table.masks ∧
      b.host.store.events = changes.map Change.event := by
  intro moves b
  obtain ⟨⟨changes, recorded, htasks, hreplay, -, -, hevents, -, hall⟩, -⟩ :=
    messages_are_ledger_of_table Admission.forMail moves .empty rfl (by simp [moves])
  have hsame : recorded = changes := hall rfl (by simp [moves])
  have hlength : changes.length = 2 := by
    have hcount : b.host.queue.tasks.length = 2 := by decide +kernel
    have htasks' : b.host.queue.tasks = changes.map Change.task := htasks
    rwa [htasks', List.length_map] at hcount
  exact ⟨changes, hlength, htasks, hreplay, hsame ▸ hevents⟩

/-- A message may be without an entry in the audit trail: the service carries on when the trail does
not take an event. -/
theorem messages_not_all_on_record :
    ¬ ∀ (a : Admission) (moves : List Move), a.table.Holds Record.Sound →
      a.host.queue.failing = false → Move.fail .post true ∉ moves →
      ∃ changes : List Change,
        (a.run moves).host.queue.tasks = a.host.queue.tasks ++ changes.map Change.task ∧
        (a.run moves).host.store.events = a.host.store.events ++ changes.map Change.event := by
  intro h
  obtain ⟨changes, htasks, hevents⟩ :=
    h Admission.forMail [.fail .audit true, .operate (.grant mailRequest 77)] .empty rfl (by simp)
  have htold : (Admission.forMail.run [.fail .audit true,
      .operate (.grant mailRequest 77)]).host.queue.tasks.length = 1 := by decide +kernel
  have hrecorded : (Admission.forMail.run [.fail .audit true,
      .operate (.grant mailRequest 77)]).host.store.events = [] := by decide +kernel
  rw [htasks, List.length_append, List.length_map] at htold
  rw [hrecorded] at hevents
  have hnone := congrArg List.length hevents
  rw [List.length_append, List.length_map] at hnone
  have hstart : Admission.forMail.host.queue.tasks.length = 0 := rfl
  rw [List.length_nil] at hnone
  omega

end DeviceStandby
