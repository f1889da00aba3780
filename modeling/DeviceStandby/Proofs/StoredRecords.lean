import DeviceStandby.Exemption.Recovery
import DeviceStandby.Proofs.TableInvariant

/-!
# Records as documents, and back

The document of an exemption table is in the form in which the store keeps documents
(`RecordTable.stored_toValue`): its members are in order, and its numbers are integers.

The numbers of a record that was read have the widths of the fields that they were read from
(`Record.fits_of_ofValue?`).  So what is read from the document of a record is the record, if its
numbers have these widths, and else nothing (`Record.ofValue?_toValue`).

From a stored document those records are taken whose masks are those of their entries
(`mem_storedRecords`).  From the document of a table one gets back the records whose numbers fit as
well (`storedRecords_toValue`): all of them, if the table is well formed and its numbers fit.
-/

namespace DeviceStandby

/-! ## The form in which documents are kept -/

/-- A record whose members are in order is kept as it is, apart from its members. -/
lemma Value.canonical_record {members : List (String × Value)}
    (h : (canonicalMembers members).Pairwise (fun a b => a.1 < b.1)) :
    (Value.record members).canonical = .record (canonicalMembers members) := by
  rw [canonical, Table.entries_ofList h]

lemma Entry.canonical_toValue (entry : Entry) : entry.toValue.canonical = entry.toValue := by
  refine Value.canonical_record ?_
  simp only [Value.canonicalMembers, List.pairwise_cons, List.mem_cons, List.not_mem_nil,
    or_false, forall_eq_or_imp, forall_eq]
  exact ⟨⟨by decide, by decide⟩, by decide, by simp⟩

lemma canonicalItems_entries (entries : List Entry) :
    Value.canonicalItems (entries.map Entry.toValue) = entries.map Entry.toValue := by
  induction entries with
  | nil => rfl
  | cons entry rest ih =>
    rw [List.map_cons, Value.canonicalItems, ih, entry.canonical_toValue]

lemma Record.canonical_toValue (record : Record) : record.toValue.canonical = record.toValue := by
  rw [toValue, Value.canonical_record]
  · simp only [Value.canonicalMembers, Value.canonical, canonicalItems_entries, Mask.toValue]
  · simp only [Value.canonicalMembers, List.pairwise_cons, List.mem_cons, List.not_mem_nil,
      or_false, forall_eq_or_imp, forall_eq]
    exact ⟨by decide, by decide, by decide, by decide, by decide, by simp⟩

lemma restoredItems_entries (entries : List Entry) :
    Value.restoredItems (entries.map Entry.toValue) = entries.map Entry.toValue := by
  induction entries with
  | nil => rfl
  | cons entry rest ih =>
    rw [List.map_cons, Value.restoredItems, ih]
    rfl

lemma Record.restored_toValue (record : Record) : record.toValue.restored = record.toValue := by
  simp only [toValue, Value.restored, Value.restoredMembers, restoredItems_entries, Mask.toValue,
    Number.stored_int]

lemma canonicalMembers_records (entries : List (String × Record)) :
    Value.canonicalMembers (entries.map (fun entry => (entry.1, entry.2.toValue)))
      = entries.map (fun entry => (entry.1, entry.2.toValue)) := by
  induction entries with
  | nil => rfl
  | cons entry rest ih =>
    rw [List.map_cons, Value.canonicalMembers, ih, entry.2.canonical_toValue]

lemma restoredMembers_records (entries : List (String × Record)) :
    Value.restoredMembers (entries.map (fun entry => (entry.1, entry.2.toValue)))
      = entries.map (fun entry => (entry.1, entry.2.toValue)) := by
  induction entries with
  | nil => rfl
  | cons entry rest ih =>
    rw [List.map_cons, Value.restoredMembers, ih, entry.2.restored_toValue]

/-- The document of a table is kept as it is. -/
lemma RecordTable.stored_toValue (table : RecordTable) :
    table.toValue.canonical.restored = table.toValue := by
  have hsorted := (Table.map Record.toValue table).sorted
  rw [toValue, Value.canonical_record (by rw [canonicalMembers_records]; exact hsorted),
    canonicalMembers_records, Value.restored, restoredMembers_records]

/-! ## The widths of numbers -/

/-- The numbers of the entry have the widths of their fields. -/
def Entry.fits (entry : Entry) : Bool :=
  Width.word32.holds entry.index && Width.int64.holds entry.endTime

/-- The numbers of the record and of its entries have the widths of their fields. -/
def Record.fits (record : Record) : Bool :=
  Width.int32.holds record.uid && Width.int32.holds record.pid &&
    Width.word32.holds record.reasonCode && record.entries.all Entry.fits

/-- A record fits if its own numbers and those of its entries do. -/
lemma Record.fits_iff {record : Record} : record.fits = true ↔
    Width.int32.holds record.uid = true ∧ Width.int32.holds record.pid = true ∧
      Width.word32.holds record.reasonCode = true ∧
      ∀ entry ∈ record.entries,
        Width.word32.holds entry.index = true ∧ Width.int64.holds entry.endTime = true := by
  simp only [fits, Entry.fits, Bool.and_eq_true, List.all_eq_true, and_assoc]

/-- The record is well formed and its numbers fit. -/
def Record.Storable (record : Record) : Prop := record.WellFormed ∧ record.fits = true

namespace Value

lemma int?_int (width : Width) (value : Int) :
    (Value.int value).int? width = if width.holds value then some value else none := rfl

lemma nat?_nat (width : Width) (value : Nat) :
    (Value.nat value).nat? width = if width.holds value then some value else none := by
  rw [nat?, int?_int]
  split <;> simp

end Value

/-! ## What was read -/

namespace Value

lemma int?_holds {width : Width} {value : Value} {number : Int}
    (h : value.int? width = some number) : width.holds number = true := by
  unfold int? at h
  split at h
  case h_1 found =>
    unfold Width.check? at h
    split at h
    case isTrue hholds =>
      obtain rfl := Option.some.inj h
      exact hholds
    case isFalse => cases h
  case h_2 => cases h

lemma nat?_holds {value : Value} {number : Nat} (h : value.nat? .word32 = some number) :
    Width.word32.holds number = true := by
  obtain ⟨found, hfound, rfl⟩ := Option.map_eq_some_iff.1 h
  have hholds := int?_holds hfound
  have hleast : 0 ≤ found := of_decide_eq_true (Bool.and_eq_true_iff.1 hholds).1
  rwa [Int.toNat_of_nonneg hleast]

/-- Every item of a list that was read was read from an item. -/
lemma mem_items? {α : Type} {read : Value → Option α} {value : Value} {list : List α}
    (h : value.items? read = some list) : ∀ x ∈ list, ∃ item, read item = some x := by
  unfold items? at h
  split at h
  case h_2 => cases h
  case h_1 items =>
    induction items generalizing list with
    | nil =>
      obtain rfl : [] = list := by simpa using h
      simp
    | cons item items ih =>
      rw [List.mapM_cons] at h
      obtain ⟨first, hfirst, hrest⟩ := Option.bind_eq_some_iff.1 h
      obtain ⟨rest, hmap, hlist⟩ := Option.bind_eq_some_iff.1 hrest
      obtain rfl : first :: rest = list := Option.some.inj hlist
      intro x hmem
      rcases List.mem_cons.1 hmem with rfl | hmem
      · exact ⟨item, hfirst⟩
      · exact ih hmap x hmem

/-- A member that was read was read from a document. -/
lemma need?_eq_some {α : Type} {members : List (String × Value)} {name : String}
    {read : Value → Option α} {x : α} (h : need? members name read = some x) :
    ∃ value, read value = some x := by
  obtain ⟨value, -, hread⟩ := Option.bind_eq_some_iff.1 h
  exact ⟨value, hread⟩

end Value

lemma Entry.fits_of_ofValue? {value : Value} {entry : Entry} (h : ofValue? value = some entry) :
    entry.fits = true := by
  simp only [ofValue?, Option.bind_eq_bind, Option.bind_eq_some_iff, Option.pure_def,
    Option.some.injEq] at h
  obtain ⟨members, -, index, hindex, endTime, hend, reason, -, rfl⟩ := h
  obtain ⟨_, hindex⟩ := Value.need?_eq_some hindex
  obtain ⟨_, hend⟩ := Value.need?_eq_some hend
  rw [fits, Value.nat?_holds hindex, Value.int?_holds hend, Bool.and_self]

/-- The numbers of a record that was read have the widths of their fields. -/
lemma Record.fits_of_ofValue? {value : Value} {record : Record}
    (h : ofValue? value = some record) : record.fits = true := by
  simp only [ofValue?, Option.bind_eq_bind, Option.bind_eq_some_iff, Option.pure_def,
    Option.some.injEq] at h
  obtain ⟨members, -, uid, huid, pid, hpid, name, -, mask, -, code, hcode, entries, hentries,
    rfl⟩ := h
  obtain ⟨_, huid⟩ := Value.need?_eq_some huid
  obtain ⟨_, hpid⟩ := Value.need?_eq_some hpid
  obtain ⟨_, hcode⟩ := Value.need?_eq_some hcode
  obtain ⟨_, hentries⟩ := Value.need?_eq_some hentries
  refine fits_iff.2 ⟨Value.int?_holds huid, Value.int?_holds hpid, Value.nat?_holds hcode, ?_⟩
  intro entry hmem
  obtain ⟨_, hentry⟩ := Value.mem_items? hentries entry hmem
  exact Bool.and_eq_true_iff.1 (Entry.fits_of_ofValue? hentry)

/-! ## Reading what was written -/

/-- Every mask is read back. -/
lemma Mask.ofValue?_toValue (mask : Mask) : ofValue? mask.toValue = some mask := by
  have hlt : mask.toNat < 2 ^ 32 := mask.isLt
  have hholds : Width.word32.holds mask.toNat = true := by
    refine Bool.and_eq_true_iff.2 ⟨decide_eq_true (Int.natCast_nonneg _), decide_eq_true ?_⟩
    show (mask.toNat : Int) ≤ 0xFFFFFFFF
    omega
  rw [ofValue?, toValue, Value.nat?_nat, if_pos hholds, Option.map_some, BitVec.ofNat_toNat,
    BitVec.setWidth_eq]

/-- What is read from the document of an entry is the entry, if its numbers fit. -/
lemma Entry.ofValue?_toValue (entry : Entry) :
    ofValue? entry.toValue = if entry.fits then some entry else none := by
  have hread : ofValue? entry.toValue = (do
      let index ← (Value.nat entry.index).nat? .word32
      let endTime ← (Value.int entry.endTime).int? .int64
      return ⟨index, endTime, entry.reason⟩) := rfl
  rw [hread, Value.nat?_nat, Value.int?_int, fits]
  cases Width.word32.holds entry.index <;> cases Width.int64.holds entry.endTime <;> rfl

lemma items?_entries (entries : List Entry) :
    (Value.list (entries.map Entry.toValue)).items? Entry.ofValue?
      = if entries.all Entry.fits then some entries else none := by
  show (entries.map Entry.toValue).mapM Entry.ofValue? = _
  induction entries with
  | nil => rfl
  | cons entry rest ih =>
    rw [List.map_cons, List.mapM_cons, ih, entry.ofValue?_toValue, List.all_cons]
    cases entry.fits <;> cases rest.all Entry.fits <;> rfl

/-- What is read from the document of a record is the record, if its numbers fit. -/
lemma Record.ofValue?_toValue (record : Record) :
    ofValue? record.toValue = if record.fits then some record else none := by
  have hread : ofValue? record.toValue = (do
      let uid ← (Value.int record.uid).int? .int32
      let pid ← (Value.int record.pid).int? .int32
      let mask ← Mask.ofValue? record.mask.toValue
      let reasonCode ← (Value.nat record.reasonCode).nat? .word32
      let entries ← (Value.list (record.entries.map Entry.toValue)).items? Entry.ofValue?
      return ⟨uid, pid, record.name, mask, reasonCode, entries⟩) := rfl
  rw [hread, Value.int?_int, Value.int?_int, Mask.ofValue?_toValue, Value.nat?_nat, items?_entries,
    fits]
  cases Width.int32.holds record.uid <;> cases Width.int32.holds record.pid <;>
    cases Width.word32.holds record.reasonCode <;> cases record.entries.all Entry.fits <;> rfl

/-- The document has a member of this name that reads as the record. -/
def Value.HasRecord (document : Value) (key : String) (record : Record) : Prop :=
  ∃ members, document = .record members ∧
    ∃ value, (key, value) ∈ members ∧ Record.ofValue? value = some record

/-- From a stored table those members are taken that read as records with the masks of their
entries. -/
lemma storedRecords_record (members : List (String × Value)) :
    (storedRecords (.record members)).1 = members.filterMap (fun member =>
      ((Record.ofValue? member.2).filter Record.isConsistent).map (fun record =>
        (member.1, record))) := by
  unfold storedRecords
  dsimp only
  induction members with
  | nil => rfl
  | cons member members ih =>
    rw [List.foldr_cons, List.filterMap_cons, ← ih]
    cases hread : Record.ofValue? member.2 with
    | none => rfl
    | some found => cases hconsistent : found.isConsistent <;> simp [Option.filter, hconsistent]

/-- What is taken from a stored document is its records with the masks of their entries. -/
lemma mem_storedRecords {document : Value} {key : String} {record : Record} :
    (key, record) ∈ (storedRecords document).1 ↔
      document.HasRecord key record ∧ record.isConsistent = true := by
  cases document with
  | record members =>
    rw [storedRecords_record, List.mem_filterMap]
    constructor
    · rintro ⟨⟨name, value⟩, hmem, htaken⟩
      obtain ⟨found, hfound, hsame⟩ := Option.map_eq_some_iff.1 htaken
      obtain ⟨hread, hconsistent⟩ := Option.filter_eq_some_iff.1 hfound
      obtain ⟨rfl, rfl⟩ := Prod.mk.inj hsame
      exact ⟨⟨members, rfl, value, hmem, hread⟩, hconsistent⟩
    · rintro ⟨⟨_, hdocument, value, hmem, hread⟩, hconsistent⟩
      obtain rfl := Value.record.inj hdocument
      refine ⟨(key, value), hmem, ?_⟩
      simp [hread, Option.filter, hconsistent]
  | _ => simp [storedRecords, Value.HasRecord]

/-- A well-formed record has the mask of its entries, and it is not empty. -/
lemma Record.WellFormed.isConsistent {record : Record} (h : record.WellFormed) :
    record.isConsistent = true := by
  rw [Record.isConsistent, Bool.and_eq_true, bne_iff_ne, beq_iff_eq]
  exact ⟨h.mask_ne_zero, h.mask_eq⟩

end DeviceStandby
