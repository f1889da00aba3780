import DeviceStandby.Proofs.StoredRecords

/-!
# When the exemption table is saved

An operation saves the table only if it granted, revoked or reaped something.  That is enough: an
operation that does not save leaves the table as it was (`Admission.perform_saves`), because a grant
of no kind puts back the record that it took out, or takes out none.

The store may fail to save.  Then what is stored stays as it was too, whatever became of the table.
-/

namespace DeviceStandby.Admission

/-- The stored exemption table, if there is one. -/
def document? (a : Admission) : Option (Option Value) := a.host.store.document? recordsDocument

variable (a : Admission)

/-- What is loaded is what is stored, unless loading fails. -/
lemma load_eq : a.host.store.load recordsDocument =
    if a.host.store.failLoad then .error .unavailable
    else match a.document? with
      | none => .ok none
      | some (some value) => .ok (some value)
      | some none => .error .unreadable := rfl

/-! ## The steps of an operation -/

/-- Saving stores the document of the table, unless it fails. -/
lemma persist_saves : a.persist.document? = some (some a.table.toValue) ∨
    a.persist.document? = a.document? ∧ a.host.store.failSave = true := by
  cases hsave : a.host.store.failSave with
  | false =>
    refine Or.inl ?_
    rw [document?, persist, Host.save_document? _ _ _ hsave, RecordTable.stored_toValue]
  | true =>
    refine Or.inr ⟨?_, rfl⟩
    simp [document?, persist, Host.save, Store.save, Store.document?, hsave]

@[simp] lemma notify_document? (uid : Uid) (name : String) (mask : Mask) (added : Bool) :
    (a.notify uid name mask added).document? = a.document? := by
  simp [document?, notify, Store.document?]

@[simp] lemma notify_failSave (uid : Uid) (name : String) (mask : Mask) (added : Bool) :
    (a.notify uid name mask added).host.store.failSave = a.host.store.failSave := by
  simp [notify]

/-- A grant of no kind leaves a well-formed table as it was: a record that is there is put back, and
one that is not has nothing in it. -/
lemma tableAfter_of_grantsOf_nil {request : Request} {mask : Mask} {pid : Pid}
    (hwell : a.table.WellFormed) (hnil : a.grantsOf request mask = []) :
    a.tableAfter request mask pid = a.table := by
  rw [tableAfter, recordAfter_of_grantsOf_nil hnil, recordBefore]
  cases hget : a.table.get? (recordKey request.uid request.name) with
  | none => exact Table.erase_of_get?_none hget
  | some record =>
    rw [Option.getD_some, if_neg (hwell _ record hget).2.mask_ne_zero]
    exact Table.insert_get? hget

/-- Settling saves the table, unless nothing was taken out; then the table is as it was. -/
lemma settle_saves {table : RecordTable} {reaped : List Revoked}
    (hchain : Revocation a.host.now a.table reaped table) :
    (a.settle table reaped).document? = some (some table.toValue) ∨
      (a.settle table reaped).document? = a.document? ∧
        (a.host.store.failSave = false → table = a.table) := by
  rw [settle_frame document? (fun _ _ _ _ => notify_document? _ _ _ _ _), settled]
  cases hchain with
  | done => exact Or.inr ⟨rfl, fun _ => rfl⟩
  | step =>
    rcases ({ a with table } : Admission).persist_saves with hsaved | ⟨hkept, hfails⟩
    · exact Or.inl hsaved
    · exact Or.inr ⟨hkept, fun hworks => absurd (hfails.symm.trans hworks) (by simp)⟩

/-- A grant saves the table, unless it grants no kind; then the table is as it was. -/
lemma grantKinds_saves {request : Request} {mask : Mask} {pid : Pid} (hwell : a.table.WellFormed) :
    (a.grantKinds request mask pid).document?
        = some (some (a.tableAfter request mask pid).toValue) ∨
      (a.grantKinds request mask pid).document? = a.document? ∧
        (a.host.store.failSave = false → a.tableAfter request mask pid = a.table) := by
  have harmed : (a.armed request mask pid).document? = a.document? := by
    rw [document?, armed_store, document?]
  have htold : (a.grantKinds request mask pid).document?
      = (a.grantSaved request mask pid).document? := by
    rw [grantKinds_eq]
    split
    · rfl
    · exact notify_document? _ _ _ _ _
  rw [htold, grantSaved]
  cases hgrants : a.grantsOf request mask with
  | nil => exact Or.inr ⟨harmed, fun _ => a.tableAfter_of_grantsOf_nil hwell hgrants⟩
  | cons grant grants =>
    rcases (a.armed request mask pid).persist_saves with hsaved | ⟨hkept, hfails⟩
    · exact Or.inl hsaved
    · rw [armed_store] at hfails
      exact Or.inr ⟨hkept.trans harmed, fun hworks => absurd (hfails.symm.trans hworks) (by simp)⟩

/-! ## Operations -/

/-- An operation stores the document of the table, or it leaves what is stored as it was; and then
the table is as it was too, unless saving fails. -/
theorem perform_saves (operation : Operation) (hwell : a.table.WellFormed) :
    (a.perform operation).document? = some (some (a.perform operation).table.toValue) ∨
      (a.perform operation).document? = a.document? ∧
        (a.host.store.failSave = false → (a.perform operation).table = a.table) := by
  rcases a.perform_cases operation with
    ⟨request, pid, mask, -, -, -, -, hperform⟩ | ⟨reaped, table, hchain, hperform⟩
  · rw [hperform, grantKinds_table]
    exact a.grantKinds_saves hwell
  · rw [hperform, settle_table]
    exact a.settle_saves hchain

lemma perform_failSave (operation : Operation) :
    (a.perform operation).host.store.failSave = a.host.store.failSave := by
  rcases a.perform_cases operation with
    ⟨request, pid, mask, -, -, -, -, hperform⟩ | ⟨reaped, table, -, hperform⟩
  · rw [hperform, grantKinds_eq, grantSaved]
    split <;> split <;> simp [persist]
  · rw [hperform, settle_frame (fun a => a.host.store.failSave)
      (fun _ _ _ _ => notify_failSave _ _ _ _ _), settled]
    split <;> simp [persist]

end DeviceStandby.Admission
