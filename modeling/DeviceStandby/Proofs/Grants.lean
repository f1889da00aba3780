import DeviceStandby.Exemption.Grant
import DeviceStandby.Proofs.HostFrames
import DeviceStandby.Proofs.Revocations

/-!
# What a grant does to the table

A grant works on one record (`Admission.recordBefore`), which is made for the owner if there is
none, prolongs the exemptions of the kinds that are granted, and puts the result
(`Admission.recordAfter`) back, unless it is empty.  `grantKinds_eq` is the whole of a grant in
these terms.

Which entries the result has follows from `mem_extendAll`: place and end of each are those of an
entry that was there before, or those of a kind that is granted.
-/

namespace DeviceStandby

/-! ## The kinds that are granted -/

/-- What a request names is what its mask has of the places of kinds, and that is something. -/
lemma Admission.requested_eq_ok {raw mask : Mask} (h : requested raw = .ok mask) :
    mask = raw &&& Mask.known ∧ raw &&& Mask.known ≠ 0 := by
  unfold requested Mask.ofRequest? at h
  dsimp only at h
  split at h
  case h_1 found hfound =>
    obtain rfl := Except.ok.inj h
    split at hfound
    case isTrue => cases hfound
    case isFalse hsome => exact ⟨(Option.some.inj hfound).symm, hsome⟩
  case h_2 => cases h

/-- A request that names a kind is heard. -/
lemma Admission.requested_of_names {raw : Mask} (h : raw &&& Mask.known ≠ 0) :
    requested raw = .ok (raw &&& Mask.known) := by
  rw [requested, Mask.ofRequest?, if_neg h]

/-- What is granted are the kinds that are asked for and for which some time is left. -/
lemma Policy.mem_grants_iff {policy : Policy} {condition : Mask} {request : Request} {mask : Mask}
    {grant : Resource × Nat} : grant ∈ policy.grants condition request mask ↔
      mask.getLsbD grant.1.index = true ∧ 0 < policy.grantedSecs condition request grant.1 ∧
        grant.2 = (policy.grantedSecs condition request grant.1).toNat * 1000 := by
  rw [grants, List.mem_filterMap]
  constructor
  · rintro ⟨kind, hkind, hgrant⟩
    dsimp only at hgrant
    split at hgrant
    case isTrue => cases hgrant
    case isFalse hpositive =>
      obtain rfl := Option.some.inj hgrant
      exact ⟨Mask.mem_kinds.1 hkind, Int.not_le.1 hpositive, rfl⟩
  · rintro ⟨hkind, hpositive, hmillis⟩
    refine ⟨grant.1, Mask.mem_kinds.2 hkind, ?_⟩
    rw [if_neg (by omega), ← hmillis]

lemma Policy.grantedSecs_le_durationSecs (policy : Policy) (condition : Mask) (request : Request)
    (kind : Resource) : policy.grantedSecs condition request kind ≤ request.durationSecs := by
  unfold grantedSecs
  split
  · exact Int.le_refl _
  · exact Int.min_le_left _ _

/-- What is granted is one of the kinds that are asked for, for some seconds, and for no more of
them than are asked for. -/
lemma Policy.mem_grants {policy : Policy} {condition : Mask} {request : Request} {mask : Mask}
    {grant : Resource × Nat} (h : grant ∈ policy.grants condition request mask) :
    mask.getLsbD grant.1.index = true ∧
      ∃ seconds : Nat, 0 < seconds ∧ (seconds : Int) ≤ request.durationSecs ∧
        grant.2 = seconds * 1000 := by
  obtain ⟨hkind, hpositive, hmillis⟩ := mem_grants_iff.1 h
  have hle := policy.grantedSecs_le_durationSecs condition request grant.1
  exact ⟨hkind, (policy.grantedSecs condition request grant.1).toNat, by omega, by omega, hmillis⟩

/-! ## Prolonging several entries -/

namespace Record

variable {record : Record} {now : Int} {reason : String} {grants : List (Resource × Nat)}

/-- Prolonging several entries leaves alone whatever prolonging one entry does. -/
lemma extendAll_frame {α : Type} (view : Record → α)
    (hextend : ∀ (record : Record) (kind : Resource) (endTime : Int) (reason : String),
      view (record.extend kind endTime reason) = view record)
    (record : Record) (now : Int) (reason : String) (grants : List (Resource × Nat)) :
    view (record.extendAll now reason grants) = view record := by
  unfold extendAll
  induction grants generalizing record with
  | nil => rfl
  | cons grant grants ih => exact (ih _).trans (hextend _ _ _ _)

@[simp] lemma extendAll_uid : (record.extendAll now reason grants).uid = record.uid :=
  extendAll_frame Record.uid (fun _ _ _ _ => rfl) _ _ _ _

@[simp] lemma extendAll_name : (record.extendAll now reason grants).name = record.name :=
  extendAll_frame Record.name (fun _ _ _ _ => rfl) _ _ _ _

@[simp] lemma extendAll_pid : (record.extendAll now reason grants).pid = record.pid :=
  extendAll_frame Record.pid (fun _ _ _ _ => rfl) _ _ _ _

@[simp] lemma extendAll_reasonCode :
    (record.extendAll now reason grants).reasonCode = record.reasonCode :=
  extendAll_frame Record.reasonCode (fun _ _ _ _ => rfl) _ _ _ _

lemma Sound.extendAll (h : record.Sound) (now : Int) (reason : String)
    (grants : List (Resource × Nat)) : (record.extendAll now reason grants).Sound := by
  unfold Record.extendAll
  induction grants generalizing record with
  | nil => exact h
  | cons grant grants ih => exact ih (h.extend grant.1 (now + grant.2) reason)

/-- No exemption is lost or shortened by prolonging others. -/
lemma exists_mem_extendAll_of_mem (now : Int) (reason : String) (grants : List (Resource × Nat))
    {entry : Entry} (h : entry ∈ record.entries) :
    ∃ last ∈ (record.extendAll now reason grants).entries,
      last.index = entry.index ∧ entry.endTime ≤ last.endTime := by
  unfold extendAll
  induction grants generalizing record entry with
  | nil => exact ⟨entry, h, rfl, Int.le_refl _⟩
  | cons grant grants ih =>
    obtain ⟨middle, hmiddle, hindex, hend⟩ :=
      exists_mem_extendEntries_of_mem grant.1.index (now + grant.2) reason h
    have hextended : middle ∈ (record.extend grant.1 (now + grant.2) reason).entries := hmiddle
    obtain ⟨last, hlast, hindex', hend'⟩ := ih hextended
    exact ⟨last, hlast, hindex'.trans hindex, Int.le_trans hend hend'⟩

/-- Place and end of an entry after prolonging are those of an entry before, or those of a grant. -/
lemma mem_extendAll {entry : Entry} (h : entry ∈ (record.extendAll now reason grants).entries) :
    (∃ old ∈ record.entries, old.index = entry.index ∧ old.endTime = entry.endTime) ∨
      ∃ grant ∈ grants, grant.1.index = entry.index ∧ now + grant.2 = entry.endTime := by
  unfold extendAll at h
  induction grants generalizing record with
  | nil => exact Or.inl ⟨entry, h, rfl, rfl⟩
  | cons grant grants ih =>
    rcases ih h with ⟨old, hold, hindex, hend⟩ | ⟨later, hlater, hentry⟩
    · rcases mem_extendEntries hold with hold | ⟨hplace, hnew | ⟨older, holder, hplace', hmax⟩⟩
      · exact Or.inl ⟨old, hold, hindex, hend⟩
      · exact Or.inr ⟨grant, List.mem_cons_self, by rw [← hindex, hplace], by rw [← hend, hnew]⟩
      · -- The later of two ends is one of them.
        rcases Int.le_total older.endTime (now + grant.2) with hle | hle
        · refine Or.inr ⟨grant, List.mem_cons_self, by rw [← hindex, hplace], ?_⟩
          rw [← hend, hmax, Int.max_eq_right hle]
        · refine Or.inl ⟨older, holder, by rw [← hindex, hplace, hplace'], ?_⟩
          rw [← hend, hmax, Int.max_eq_left hle]
    · exact Or.inr ⟨later, List.mem_cons_of_mem _ hlater, hentry⟩

lemma getLsbD_mask_extendAll {i : Nat} (h : record.mask.getLsbD i = true) :
    (record.extendAll now reason grants).mask.getLsbD i = true := by
  unfold extendAll
  induction grants generalizing record with
  | nil => exact h
  | cons grant grants ih =>
    refine ih ?_
    simp [extend, h]

end Record

/-! ## The record of the owner -/

namespace Admission

variable (a : Admission) (request : Request) (mask : Mask) (pid : Pid)

/-- The kinds that a request gets now, with the milliseconds of each. -/
def grantsOf : List (Resource × Nat) := a.policy.grants a.condition request mask

/-- The record of the owner before a grant; if there is none, one without exemptions. -/
def recordBefore : Record :=
  (a.table.get? (recordKey request.uid request.name)).getD
    (Record.blank request.uid pid request.name request.reasonCode)

/-- The record of the owner after a grant. -/
def recordAfter : Record :=
  let extended := (a.recordBefore request pid).extendAll a.host.now request.reason
    (a.grantsOf request mask)
  if (a.grantsOf request mask).isEmpty then extended else { extended with pid }

/-- The table after a grant: the new record stands in place of the old one, or none if it is
empty. -/
def tableAfter : RecordTable :=
  if (a.recordAfter request mask pid).mask = 0 then
    a.table.erase (recordKey request.uid request.name)
  else a.table.insert (recordKey request.uid request.name) (a.recordAfter request mask pid)

/-- The kinds that a grant adds to the exemptions of the owner. -/
def addedMask : Mask :=
  (a.recordAfter request mask pid).mask ^^^
    ((a.recordBefore request pid).mask &&& (a.recordAfter request mask pid).mask)

/-- The host after the timers of a grant were armed, with the table as it is then. -/
def armed : Admission :=
  { a with
    table := a.tableAfter request mask pid
    host := armRevokes a.host request mask (a.grantsOf request mask) }

/-- The table after a grant, saved unless nothing was granted. -/
def grantSaved : Admission :=
  if (a.grantsOf request mask).isEmpty then a.armed request mask pid
  else (a.armed request mask pid).persist

/-- A grant puts the new record into the table, arms the timers, saves the table unless nothing was
granted, and tells of the kinds that were added, if there are any. -/
lemma grantKinds_eq : a.grantKinds request mask pid =
    if a.addedMask request mask pid = 0 then a.grantSaved request mask pid
    else (a.grantSaved request mask pid).notify request.uid request.name
      (a.addedMask request mask pid) true := rfl

/-- Arming timers leaves alone whatever arming one timer does. -/
lemma armRevokes_frame {α : Type} (view : Host → α)
    (harm : ∀ (host : Host) (delay : Nat) (task : TimerTask),
      view (host.arm delay task).2 = view host)
    (host : Host) (grants : List (Resource × Nat)) :
    view (armRevokes host request mask grants) = view host := by
  unfold armRevokes
  induction grants generalizing host with
  | nil => rfl
  | cons grant grants ih => exact (ih _).trans (harm _ _ _)

@[simp] lemma armed_store : (a.armed request mask pid).host.store = a.host.store :=
  armRevokes_frame request mask Host.store (fun _ _ _ => rfl) _ _

@[simp] lemma armed_queue : (a.armed request mask pid).host.queue = a.host.queue :=
  armRevokes_frame request mask Host.queue (fun _ _ _ => rfl) _ _

@[simp] lemma notify_table (uid : Uid) (name : String) (added : Bool) :
    (a.notify uid name mask added).table = a.table := rfl

@[simp] lemma grantSaved_table :
    (a.grantSaved request mask pid).table = a.tableAfter request mask pid := by
  unfold grantSaved
  split <;> rfl

@[simp] lemma grantKinds_table :
    (a.grantKinds request mask pid).table = a.tableAfter request mask pid := by
  rw [grantKinds_eq]
  split <;> simp

lemma notify_now (uid : Uid) (name : String) (added : Bool) :
    (a.notify uid name mask added).host.now = a.host.now := by
  simp [notify, Host.now]

/-- A grant takes no time. -/
@[simp] lemma grantKinds_now : (a.grantKinds request mask pid).host.now = a.host.now := by
  have harmed : (a.armed request mask pid).host.now = a.host.now :=
    armRevokes_frame request mask Host.now Host.arm_now _ _
  have hsaved : (a.grantSaved request mask pid).host.now = a.host.now := by
    unfold grantSaved
    split <;> exact harmed
  rw [grantKinds_eq]
  split
  · exact hsaved
  · rw [notify_now, hsaved]

variable {a request mask pid}

@[simp] lemma recordAfter_uid :
    (a.recordAfter request mask pid).uid = (a.recordBefore request pid).uid := by
  unfold recordAfter
  split <;> simp

@[simp] lemma recordAfter_name :
    (a.recordAfter request mask pid).name = (a.recordBefore request pid).name := by
  unfold recordAfter
  split <;> simp

@[simp] lemma recordAfter_entries : (a.recordAfter request mask pid).entries =
    ((a.recordBefore request pid).extendAll a.host.now request.reason
      (a.grantsOf request mask)).entries := by
  unfold recordAfter
  split <;> rfl

@[simp] lemma recordAfter_mask : (a.recordAfter request mask pid).mask =
    ((a.recordBefore request pid).extendAll a.host.now request.reason
      (a.grantsOf request mask)).mask := by
  unfold recordAfter
  split <;> rfl

lemma recordAfter_of_grantsOf_nil (h : a.grantsOf request mask = []) :
    a.recordAfter request mask pid = a.recordBefore request pid := by
  rw [recordAfter, h]
  rfl

lemma get?_of_mem_recordBefore {entry : Entry} (h : entry ∈ (a.recordBefore request pid).entries) :
    a.table.get? (recordKey request.uid request.name) = some (a.recordBefore request pid) := by
  unfold recordBefore at h ⊢
  cases hget : a.table.get? (recordKey request.uid request.name) with
  | none =>
    rw [hget] at h
    cases h
  | some record => rfl

lemma get?_tableAfter {key : String} {record : Record}
    (h : (a.tableAfter request mask pid).get? key = some record) :
    key = recordKey request.uid request.name ∧ record = a.recordAfter request mask pid ∨
      a.table.get? key = some record := by
  unfold tableAfter at h
  split at h
  · rw [Table.get?_erase] at h
    split at h
    · cases h
    · exact Or.inr h
  · rw [Table.get?_insert] at h
    split at h
    case isTrue heq => exact Or.inl ⟨heq.symm, (Option.some.inj h).symm⟩
    case isFalse => exact Or.inr h

/-- A record with an exemption stays in the table after the grant. -/
lemma get?_tableAfter_owner (h : (a.recordAfter request mask pid).mask ≠ 0) :
    (a.tableAfter request mask pid).get? (recordKey request.uid request.name)
      = some (a.recordAfter request mask pid) := by
  rw [tableAfter, if_neg h, Table.get?_insert, if_pos rfl]

/-- In a table of sound records the record before a grant belongs to the owner and is sound. -/
lemma recordBefore_spec (h : a.table.Holds Record.Sound) (request : Request) (pid : Pid) :
    (a.recordBefore request pid).uid = request.uid ∧
      (a.recordBefore request pid).name = request.name ∧ (a.recordBefore request pid).Sound := by
  unfold recordBefore
  cases hget : a.table.get? (recordKey request.uid request.name) with
  | none => exact ⟨rfl, rfl, Record.sound_blank _ _ _ _⟩
  | some record =>
    obtain ⟨hkey, hsound⟩ := h _ record hget
    obtain ⟨huid, hname⟩ := recordKey_injective hkey
    exact ⟨huid.symm, hname.symm, hsound⟩

lemma recordAfter_sound (h : a.table.Holds Record.Sound) :
    (a.recordAfter request mask pid).Sound := by
  have hafter := (recordBefore_spec h request pid).2.2.extendAll a.host.now request.reason
    (a.grantsOf request mask)
  exact ⟨by simpa using hafter.distinct, by simpa using hafter.known,
    by simpa [Record.entriesMask] using hafter.mask_eq⟩

/-- A grant keeps a property of sound records that the new record has, unless it is empty. -/
lemma grantKinds_holds {P : Record → Prop} (hsound : ∀ record, P record → record.Sound)
    (htable : a.table.Holds P)
    (hafter : (a.recordAfter request mask pid).mask ≠ 0 → P (a.recordAfter request mask pid)) :
    (a.grantKinds request mask pid).table.Holds P := by
  rw [grantKinds_table, tableAfter]
  split
  case isTrue => exact htable.erase _
  case isFalse hmask =>
    obtain ⟨huid, hname, -⟩ := recordBefore_spec (htable.mono hsound) request pid
    refine htable.insert ?_ (hafter hmask)
    rw [recordAfter_uid, recordAfter_name, huid, hname]

end Admission

end DeviceStandby
