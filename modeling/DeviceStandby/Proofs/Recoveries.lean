import DeviceStandby.Proofs.RevokeTimers
import DeviceStandby.Proofs.Saves

/-!
# What recovery takes over

Recovery takes over the stored records whose processes are running (`Admission.recovered`).  If the
stored table is the document of a well-formed one, these are well formed and stand under the keys of
their owners; each takes the place of the record that the table had under its key, and a timer is
armed for each of their exemptions (`Admission.recover_spec`).
-/

namespace DeviceStandby

namespace Admission

/-- What is stored, if anything, is the document of a well-formed table. -/
def StoresWellFormed (a : Admission) : Prop :=
  a.document? = none ∨
    ∃ table : RecordTable, table.WellFormed ∧ a.document? = some (some table.toValue)

/-! ## The records that are taken over -/

/-- The records that recovery takes over, under their keys. -/
def recovered (a : Admission) (running : Option Processes) : List (String × Record) :=
  match running with
  | none => []
  | some [] => []
  | some running =>
    match a.host.store.load recordsDocument with
    | .ok (some document) =>
      (storedRecords document).1.filter
        (fun entry => running.name? entry.2.pid = some entry.2.name)
    | _ => []

variable {a : Admission} {running : Option Processes}

/-- Recovery saves the table and puts its result on record after it took over the records, if it did
anything at all. -/
lemma recover_eq (a : Admission) (running : Option Processes) :
    a.recover running = a ∧ a.recovered running = [] ∨
      ∃ event, a.recover running =
        let taken :=
          ((a.recovered running).foldl (fun a entry => a.adopt entry.1 entry.2) a).persist
        { taken with host := taken.host.audit event } := by
  cases running with
  | none => exact Or.inl ⟨rfl, rfl⟩
  | some running =>
    cases running with
    | nil => exact Or.inl ⟨rfl, rfl⟩
    | cons process running =>
      simp only [recover, recovered]
      rcases a.host.store.load recordsDocument with _ | _ | document
      · exact Or.inl ⟨rfl, rfl⟩
      · exact Or.inl ⟨rfl, rfl⟩
      · exact Or.inr ⟨_, rfl⟩

/-- The records that are taken over are those of the document that is loaded, if their masks are
those of their entries and their processes are running. -/
lemma mem_recovered_iff {key : String} {record : Record} :
    (key, record) ∈ a.recovered running ↔
      ∃ processes document, running = some processes ∧
        a.host.store.load recordsDocument = .ok (some document) ∧
        document.HasRecord key record ∧ record.isConsistent = true ∧
        processes.name? record.pid = some record.name := by
  unfold recovered
  split
  case h_1 => simp
  case h_2 => simp [Processes.name?]
  case h_3 processes _ =>
    split
    case h_1 document hload => simp [mem_storedRecords, hload, and_assoc]
    case h_2 hload =>
      constructor
      · intro hmem
        cases hmem
      · rintro ⟨_, document, -, hdocument, -⟩
        exact absurd hdocument (hload document)

/-- If what is stored is the document of a well-formed table, the records that are taken over are
well formed and stand under the keys of their owners, and their numbers fit, since they were
read. -/
lemma mem_recovered (hstored : a.StoresWellFormed) {key : String} {record : Record}
    (h : (key, record) ∈ a.recovered running) :
    key = recordKey record.uid record.name ∧ record.Storable := by
  obtain ⟨_, document, -, hload, ⟨members, hmembers, value, hvalue, hread⟩, -, -⟩ :=
    mem_recovered_iff.1 h
  have hfits := Record.fits_of_ofValue? hread
  rcases hstored with hnone | ⟨table, htable, hsome⟩
  · rw [load_eq, hnone] at hload
    split at hload <;> cases hload
  · rw [load_eq, hsome] at hload
    split at hload
    case isTrue => cases hload
    case isFalse =>
      obtain rfl : table.toValue = document := by simpa using hload
      obtain rfl := Value.record.inj hmembers
      obtain ⟨⟨name, old⟩, hentry, hsame⟩ := List.mem_map.1 hvalue
      obtain ⟨rfl, rfl⟩ := Prod.mk.inj hsame
      rw [Record.ofValue?_toValue] at hread
      split at hread
      case isTrue =>
        obtain rfl := Option.some.inj hread
        obtain ⟨hkey, hwell⟩ := htable name old (Table.mem_entries.1 hentry)
        exact ⟨hkey, hwell, hfits⟩
      case isFalse => cases hread

/-- The ends of exemptions that are taken over were read as numbers of 64 bits, so they are in reach
if neither they nor the clock are negative. -/
lemma inReach_of_mem_recovered (hnow : 0 ≤ a.host.now) (hclock : a.host.now ≤ Width.int64.greatest)
    {key : String} {record : Record} (hmem : (key, record) ∈ a.recovered running) {entry : Entry}
    (hentry : entry ∈ record.entries) (hend : 0 ≤ entry.endTime) : entry.InReach a.host.now := by
  obtain ⟨-, document, -, -, ⟨members, -, value, -, hread⟩, -, -⟩ := mem_recovered_iff.1 hmem
  have hfits := (Record.fits_iff.1 (Record.fits_of_ofValue? hread)).2.2.2 entry hentry
  exact Entry.inReach_of_nonneg hnow hclock hend
    (of_decide_eq_true (Bool.and_eq_true_iff.1 hfits.2).2)

/-! ## The table after recovery -/

/-- What is found after some records were put into a table is one of them, or was there before. -/
lemma get?_foldl_insert {records : List (String × Record)} {table : RecordTable} {key : String}
    {record : Record}
    (h : (records.foldl (fun table entry => Table.insert table entry.1 entry.2) table).get? key
      = some record) :
    (key, record) ∈ records ∨
      (∀ entry ∈ records, entry.1 ≠ key) ∧ table.get? key = some record := by
  induction records generalizing table with
  | nil => exact Or.inr ⟨by simp, h⟩
  | cons entry records ih =>
    rcases ih h with hmem | ⟨hother, hget⟩
    · exact Or.inl (List.mem_cons_of_mem _ hmem)
    · rw [Table.get?_insert] at hget
      split at hget
      case isTrue heq =>
        obtain rfl := Option.some.inj hget
        exact Or.inl (heq ▸ List.mem_cons_self)
      case isFalse hne =>
        refine Or.inr ⟨fun other hmem => ?_, hget⟩
        rcases List.mem_cons.1 hmem with rfl | hmem
        · exact hne
        · exact hother other hmem

/-- Under a key of none of the records nothing changes when they are put into a table. -/
lemma get?_foldl_insert_of_ne {records : List (String × Record)} {table : RecordTable}
    {key : String} (h : ∀ entry ∈ records, entry.1 ≠ key) :
    (records.foldl (fun table entry => Table.insert table entry.1 entry.2) table).get? key
      = table.get? key := by
  induction records generalizing table with
  | nil => rfl
  | cons entry records ih =>
    have hother : entry.1 ≠ key := h entry List.mem_cons_self
    rw [List.foldl_cons, ih (fun other hmem => h other (List.mem_cons_of_mem _ hmem)),
      Table.get?_insert, if_neg hother]

/-! ## The timers of recovery -/

/-- The timers of the exemptions of a record are armed for the time that is left of them, or for
now if there is none. -/
lemma arms_armExpiries {host : Host} (hworks : host.timers.failing = false) (record : Record) :
    ∃ more, Host.Arms host more (armExpiries host record) ∧
      ∀ entry ∈ record.entries, ∃ timer ∈ more,
        timer.task = .revokeExpired record.uid record.name Mask.known ∧
        timer.due = host.now + max 0 (entry.timeLeft host.now) := by
  obtain ⟨more, harms, hall⟩ :=
    Host.Arms.foldl (fun now (entry : Entry) => (entry.timeLeft now).toNat)
      (fun _ => .revokeExpired record.uid record.name Mask.known) (fun _ => rfl) hworks
      record.entries
  refine ⟨more, harms, fun entry hmem => ?_⟩
  obtain ⟨timer, htimer, htask, hdue⟩ := hall entry hmem
  rw [Int.toNat_eq_max, Int.max_comm, entry.wrap64_timeLeft] at hdue
  exact ⟨timer, htimer, htask, hdue⟩

lemma arms_foldl_adopt {records : List (String × Record)}
    (hworks : a.host.timers.failing = false) :
    ∃ more, Host.Arms a.host more (records.foldl (fun a entry => a.adopt entry.1 entry.2) a).host ∧
      ∀ entry ∈ records, ∀ exemption ∈ entry.2.entries, ∃ timer ∈ more,
        timer.task = .revokeExpired entry.2.uid entry.2.name Mask.known ∧
        timer.due = a.host.now + max 0 (exemption.timeLeft a.host.now) := by
  induction records generalizing a with
  | nil => exact ⟨[], .of_same rfl, by simp⟩
  | cons entry records ih =>
    obtain ⟨first, hfirst, hcovered⟩ := arms_armExpiries hworks entry.2
    have hnow : (a.adopt entry.1 entry.2).host.now = a.host.now := hfirst.now
    obtain ⟨more, hmore, hrest⟩ := ih (a := a.adopt entry.1 entry.2) (hfirst.arming.trans hworks)
    refine ⟨first ++ more, hfirst.trans hmore, fun other hmem exemption hexemption => ?_⟩
    rcases List.mem_cons.1 hmem with rfl | hmem
    · obtain ⟨timer, htimer, hspec⟩ := hcovered exemption hexemption
      exact ⟨timer, List.mem_append_left _ htimer, hspec⟩
    · obtain ⟨timer, htimer, hspec⟩ := hrest other hmem exemption hexemption
      exact ⟨timer, List.mem_append_right _ htimer, hnow ▸ hspec⟩

lemma foldl_adopt_table (records : List (String × Record)) (a : Admission) :
    (records.foldl (fun a entry => a.adopt entry.1 entry.2) a).table
      = records.foldl (fun table entry => Table.insert table entry.1 entry.2) a.table := by
  induction records generalizing a with
  | nil => rfl
  | cons entry records ih => exact ih (a.adopt entry.1 entry.2)

/-- Recovery puts the records that are taken over into the table, and nothing else. -/
lemma table_recover (a : Admission) (running : Option Processes) :
    (a.recover running).table = (a.recovered running).foldl
      (fun table entry => Table.insert table entry.1 entry.2) a.table := by
  rcases a.recover_eq running with ⟨hsame, hnone⟩ | ⟨event, hrecover⟩
  · rw [hsame, hnone]
    rfl
  · rw [hrecover]
    exact foldl_adopt_table _ _

lemma armExpiries_store (host : Host) (record : Record) :
    (armExpiries host record).store = host.store := by
  unfold armExpiries
  induction record.entries generalizing host with
  | nil => rfl
  | cons entry entries ih => exact ih _

lemma foldl_adopt_store (records : List (String × Record)) (a : Admission) :
    (records.foldl (fun a entry => a.adopt entry.1 entry.2) a).host.store = a.host.store := by
  induction records generalizing a with
  | nil => rfl
  | cons entry records ih => exact (ih _).trans (armExpiries_store a.host entry.2)

/-- Recovery puts the records that are taken over into the table, arms a timer for each of their
exemptions, and saves the table, if it does anything at all. -/
theorem recover_spec (running : Option Processes) (hworks : a.host.timers.failing = false) :
    (a.recover running).table = (a.recovered running).foldl
        (fun table entry => Table.insert table entry.1 entry.2) a.table ∧
      (∃ more, Host.Arms a.host more (a.recover running).host ∧
        ∀ entry ∈ a.recovered running, ∀ exemption ∈ entry.2.entries, ∃ timer ∈ more,
          timer.task = .revokeExpired entry.2.uid entry.2.name Mask.known ∧
          timer.due = a.host.now + max 0 (exemption.timeLeft a.host.now)) ∧
      ((a.recover running).document? = some (some (a.recover running).table.toValue) ∨
        (a.recover running).document? = a.document?) := by
  refine ⟨a.table_recover running, ?_⟩
  rcases a.recover_eq running with ⟨hsame, hnone⟩ | ⟨event, hrecover⟩
  · rw [hsame, hnone]
    exact ⟨⟨[], .of_same rfl, by simp⟩, Or.inr rfl⟩
  · obtain ⟨more, harms, hcovered⟩ := arms_foldl_adopt hworks
    have hstore := foldl_adopt_store (a.recovered running) a
    generalize htaken : (a.recovered running).foldl (fun a entry => a.adopt entry.1 entry.2) a
      = taken at harms hstore hrecover
    rw [hrecover]
    refine ⟨⟨more, ?_, hcovered⟩, ?_⟩
    · rw [← List.append_nil more]
      exact harms.trans (.of_same rfl)
    · have hrecorded : ({ taken.persist with host := taken.persist.host.audit event } :
          Admission).document? = taken.persist.document? := by
        simp [document?, Store.document?]
      have hbefore : taken.document? = a.document? := by rw [document?, hstore, document?]
      rw [hrecorded, ← hbefore]
      exact taken.persist_saves.imp_right And.left

end Admission

end DeviceStandby
