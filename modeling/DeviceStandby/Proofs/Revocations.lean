import DeviceStandby.Exemption.Query
import DeviceStandby.Proofs.OwnerKeys
import DeviceStandby.Proofs.SoundRecords
import DeviceStandby.Proofs.Tables

/-!
# Taking exemptions out of a table

`revokeEntries` compares masks to find out whether something is to be taken out, whether something
was, and whether anything is left.  In a sound record that is what happens to the entries:
`revokeEntries_some` and `revokeEntries_none` say it in these terms.

All operations but granting come down to a chain of such steps, a `Revocation`.  `RecordTable.Holds`
says of a table that every record stands under the key of its owner and has a property; a chain
keeps it if the property passes to the records that are left (`Revocation.holds`).
-/

namespace DeviceStandby

/-- Every record stands under the key of its owner and has the property `P`. -/
def RecordTable.Holds (P : Record → Prop) (table : RecordTable) : Prop :=
  ∀ key record, table.get? key = some record →
    key = recordKey record.uid record.name ∧ P record

namespace RecordTable.Holds

variable {P Q : Record → Prop} {table : RecordTable}

lemma empty : RecordTable.Holds P Table.empty := by
  intro key record h
  rw [Table.get?_empty] at h
  cases h

lemma mono (h : table.Holds P) (himp : ∀ record, P record → Q record) : table.Holds Q :=
  fun key record hget => ⟨(h key record hget).1, himp record (h key record hget).2⟩

lemma insert (h : table.Holds P) {key : String} {record : Record}
    (hkey : key = recordKey record.uid record.name) (hrecord : P record) :
    RecordTable.Holds P (Table.insert table key record) := by
  intro other found hget
  rw [Table.get?_insert] at hget
  split at hget
  case isTrue heq =>
    obtain rfl := Option.some.inj hget
    exact ⟨heq ▸ hkey, hrecord⟩
  case isFalse => exact h other found hget

lemma erase (h : table.Holds P) (key : String) :
    RecordTable.Holds P (Table.erase table key) := by
  intro other found hget
  rw [Table.get?_erase] at hget
  split at hget
  · cases hget
  · exact h other found hget

end RecordTable.Holds

/-! ## One step -/

section Step

variable {table next : RecordTable} {key : String} {mask : Mask} {force : Bool} {now : Int}

/-- An entry that is revoked stands at a place of the mask. -/
lemma Entry.isRevoked_iff {entry : Entry} : entry.isRevoked mask force now = true ↔
    mask.getLsbD entry.index = true ∧ (force = true ∨ entry.endTime ≤ now) := by
  rw [isRevoked, bit, Mask.meets_bit, Bool.and_eq_true, Bool.or_eq_true, expired,
    decide_eq_true_iff]

/-- A table from which nothing was taken out is the one that it was. -/
lemma revokeEntries_eq_of_none (h : revokeEntries table key mask force now = (none, next)) :
    next = table := by
  unfold revokeEntries at h
  grind

/-- If nothing was taken out of a record whose mask is that of its entries, nothing was to be. -/
lemma revokeEntries_none {record : Record} (hget : table.get? key = some record)
    (hmask : record.mask = record.entriesMask)
    (h : revokeEntries table key mask force now = (none, next)) :
    ∀ entry ∈ record.entries, entry.isRevoked mask force now = false := by
  intro entry hmem
  rw [← Bool.not_eq_true]
  intro hrevoked
  have hwanted : mask.getLsbD entry.index = true := (Entry.isRevoked_iff.1 hrevoked).1
  -- A mask has no place for an index of 32 or more, so the entry has a bit.
  have hindex : entry.index < 32 := BitVec.lt_of_getLsbD hwanted
  rw [revokeEntries, hget] at h
  dsimp only at h
  split at h
  case isTrue hmeets =>
    rw [Bool.not_eq_true', ← Bool.not_eq_true, Mask.meets_iff] at hmeets
    refine hmeets ⟨entry.index, hwanted, ?_⟩
    rw [hmask, Record.entriesMask]
    exact getLsbD_entriesMask_of_mem hmem hindex
  case isFalse =>
    split at h
    case isTrue hnone =>
      have hgone : entry ∈ record.entries.filter (fun entry => entry.isRevoked mask force now) :=
        List.mem_filter.2 ⟨hmem, hrevoked⟩
      have hbit := getLsbD_entriesMask_of_mem hgone hindex
      rw [Mask.eq_zero_iff.1 hnone] at hbit
      cases hbit
    case isFalse => cases h

/-- If something was taken out, it was every entry that is meant, at least one.  The owner's loss is
the union of their bits, and the record stays with the other entries as long as there are any. -/
lemma revokeEntries_some {revoked : Revoked}
    (hsound : ∀ record, table.get? key = some record → record.Sound)
    (h : revokeEntries table key mask force now = (some revoked, next)) :
    ∃ record, table.get? key = some record ∧
      record.entries.filter (fun entry => entry.isRevoked mask force now) ≠ [] ∧
      revoked = ⟨record.uid, record.name,
        entriesMask (record.entries.filter (fun entry => entry.isRevoked mask force now))⟩ ∧
      next = if record.entries.filter (fun entry => !entry.isRevoked mask force now) = []
        then table.erase key
        else table.insert key (record.keepOnly (fun entry => !entry.isRevoked mask force now)) := by
  unfold revokeEntries at h
  split at h
  case h_1 => cases h
  case h_2 record hget =>
    have hrecord := hsound record hget
    simp only [hrecord.entriesMask_filter_eq_zero, hrecord.entriesMask_filter_eq_mask,
      hrecord.without_eq] at h
    split at h
    case isTrue => cases h
    case isFalse =>
      split at h
      case isTrue => cases h
      case isFalse hgone =>
        obtain ⟨hrevoked, hnext⟩ := Prod.mk.inj h
        exact ⟨record, hget, hgone, (Option.some.inj hrevoked).symm, hnext.symm⟩

/-- What is left of a record whose mask is that of its entries was not to be taken out. -/
lemma not_isRevoked_of_mem_rest
    (hmask : ∀ record, table.get? key = some record → record.mask = record.entriesMask)
    {record : Record}
    (hget : (revokeEntries table key mask force now).2.get? key = some record) :
    ∀ entry ∈ record.entries, entry.isRevoked mask force now = false := by
  rcases h : revokeEntries table key mask force now with ⟨_ | revoked, next⟩
  · rw [h, revokeEntries_eq_of_none h] at hget
    exact revokeEntries_none hget (hmask record hget) h
  · rw [h] at hget
    unfold revokeEntries at h
    split at h
    case h_1 => cases h
    case h_2 =>
      split at h
      case isTrue => cases h
      case isFalse =>
        dsimp only at h
        split at h
        case isTrue => cases h
        case isFalse =>
          obtain ⟨-, rfl⟩ := Prod.mk.inj h
          split at hget
          case isTrue => simp [Table.get?_erase] at hget
          case isFalse =>
            rw [Table.get?_insert, if_pos rfl] at hget
            obtain rfl := Option.some.inj hget
            intro entry hmem
            simpa using List.of_mem_filter hmem

end Step

/-! ## Chains -/

/-- Exemptions are taken out of a table one record after the other, something each time. -/
inductive Revocation (now : Int) : RecordTable → List Revoked → RecordTable → Prop where
  | done (table : RecordTable) : Revocation now table [] table
  | step {table next last : RecordTable} {key : String} {mask : Mask} {force : Bool}
      {revoked : Revoked} {rest : List Revoked}
      (first : revokeEntries table key mask force now = (some revoked, next))
      (tail : Revocation now next rest last) : Revocation now table (revoked :: rest) last

namespace Revocation

variable {now : Int} {table next last : RecordTable} {reaped more : List Revoked}

lemma trans (first : Revocation now table reaped next) (second : Revocation now next more last) :
    Revocation now table (reaped ++ more) last := by
  induction first with
  | done => exact second
  | step head _ ih => exact step head (ih second)

lemma of_revokeEntries (table : RecordTable) (key : String) (mask : Mask) (force : Bool)
    (now : Int) :
    Revocation now table (revokeEntries table key mask force now).1.toList
      (revokeEntries table key mask force now).2 := by
  rcases h : revokeEntries table key mask force now with ⟨_ | revoked, next⟩
  · rw [revokeEntries_eq_of_none h]
    exact done table
  · exact step h (done next)

lemma of_reapKeys (mask : Mask) (now : Int) (keys : List String) (table : RecordTable) :
    Revocation now table (RecordTable.reapKeys table mask now keys).1
      (RecordTable.reapKeys table mask now keys).2 := by
  unfold RecordTable.reapKeys
  -- What has been taken out already is carried along.
  refine List.foldlRecOn (motive := fun result : List Revoked × RecordTable =>
    Revocation now table result.1 result.2) keys _ (done table) ?_
  intro result hresult key _
  exact hresult.trans (of_revokeEntries result.2 key mask false now)

lemma of_scan (code : ReasonCode) (now : Int) (kinds : List Resource) (table : RecordTable) :
    Revocation now table (RecordTable.scan code now kinds table).2.1
      (RecordTable.scan code now kinds table).2.2 := by
  induction kinds generalizing table with
  | nil => exact done table
  | cons kind kinds ih => exact (of_reapKeys kind.bit now _ table).trans (ih _)

/-- A chain keeps a property of sound records that passes to the records that are left. -/
lemma holds {P : Record → Prop} (hsound : ∀ record, P record → record.Sound)
    (hkeep : ∀ record keep, P record → record.entries.filter keep ≠ [] →
      P (record.keepOnly keep))
    (h : Revocation now table reaped last) (htable : table.Holds P) : last.Holds P := by
  induction h with
  | done => exact htable
  | step first _ ih =>
    refine ih ?_
    obtain ⟨record, hget, -, -, rfl⟩ :=
      revokeEntries_some (fun record hget => hsound record (htable _ record hget).2) first
    obtain ⟨hkey, hrecord⟩ := htable _ record hget
    split
    case isTrue => exact htable.erase _
    case isFalse hleft => exact htable.insert hkey (hkeep record _ hrecord hleft)

/-- Every entry that a chain leaves was there before, in a record of the same owner. -/
lemma mem_of_mem_last (hsound : table.Holds Record.Sound) (h : Revocation now table reaped last)
    {key : String} {record : Record} (hget : last.get? key = some record) :
    ∃ old, table.get? key = some old ∧ old.uid = record.uid ∧ old.name = record.name ∧
      ∀ entry ∈ record.entries, entry ∈ old.entries := by
  induction h with
  | done => exact ⟨record, hget, rfl, rfl, fun _ hmem => hmem⟩
  | @step table next last changed mask force revoked rest first tail ih =>
    have hnext : next.Holds Record.Sound :=
      (step first (done next)).holds (fun _ h => h) (fun _ keep h _ => h.keepOnly keep) hsound
    obtain ⟨middle, hmiddle, huid, hname, hentries⟩ := ih hnext hget
    obtain ⟨old, hold, -, -, rfl⟩ :=
      revokeEntries_some (fun record hget => (hsound _ record hget).2) first
    by_cases hkey : changed = key
    · subst hkey
      split at hmiddle
      case isTrue => simp [Table.get?_erase] at hmiddle
      case isFalse =>
        obtain rfl : old.keepOnly _ = middle := by simpa [Table.get?_insert] using hmiddle
        exact ⟨old, hold, huid, hname,
          fun entry hmem => List.mem_of_mem_filter (hentries entry hmem)⟩
    · have hsame : table.get? key = some middle := by
        split at hmiddle
        · simpa [Table.get?_erase, hkey] using hmiddle
        · simpa [Table.get?_insert, hkey] using hmiddle
      exact ⟨middle, hsame, huid, hname, hentries⟩

end Revocation

end DeviceStandby
