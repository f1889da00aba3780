import DeviceStandby.Engine.Dispatch
import DeviceStandby.Proofs.Operations

/-!
# The exemption table stays well formed

A table is well formed if every record stands under the key of its owner and is well formed itself:
the owner's number is not negative, there is at least one entry, the entries stand at different
places of kinds, and the mask is the union of their bits.

Every operation keeps this, whether it succeeds or not, for any policy and at any time
(`perform_wellFormed`), and so does every run (`run_wellFormed`).  It is what makes the mask of a
record say which exemptions there are.
-/

namespace DeviceStandby

/-- Every record is well formed and stands under the key of its owner. -/
def RecordTable.WellFormed (table : RecordTable) : Prop := table.Holds Record.WellFormed

namespace Record.WellFormed

variable {record : Record}

lemma mask_ne_zero (h : record.WellFormed) : record.mask ≠ 0 :=
  fun hzero => h.nonempty (h.toSound.mask_eq_zero_iff.1 hzero)

/-- Some entries of a well-formed record, at least one, make a well-formed record. -/
lemma keepOnly (h : record.WellFormed) (keep : Entry → Bool)
    (hleft : record.entries.filter keep ≠ []) : (record.keepOnly keep).WellFormed where
  toSound := h.toSound.keepOnly keep
  nonempty := hleft
  uid_valid := h.uid_valid

end Record.WellFormed

lemma RecordTable.WellFormed.sound {table : RecordTable} (h : table.WellFormed) :
    table.Holds Record.Sound :=
  h.mono (fun _ hrecord => hrecord.toSound)

namespace Admission

lemma recordAfter_wellFormed {a : Admission} {request : Request} {mask : Mask} {pid : Pid}
    (htable : a.table.WellFormed) (huid : 0 ≤ request.uid)
    (hmask : (a.recordAfter request mask pid).mask ≠ 0) :
    (a.recordAfter request mask pid).WellFormed where
  toSound := recordAfter_sound htable.sound
  nonempty := fun hnil => hmask ((recordAfter_sound htable.sound).mask_eq_zero_iff.2 hnil)
  uid_valid := by rw [recordAfter_uid, (recordBefore_spec htable.sound request pid).1]; exact huid

/-- Every operation keeps a table well formed, whether or not it succeeds. -/
lemma perform_wellFormed (a : Admission) (operation : Operation) (h : a.table.WellFormed) :
    (a.perform operation).table.WellFormed := by
  refine perform_holds (fun _ hrecord => hrecord.toSound)
    (fun _ keep hrecord => hrecord.keepOnly keep) operation ?_ h
  intro request pid mask _ _ huid hmask
  exact recordAfter_wellFormed h huid hmask

/-- Every run keeps a table well formed. -/
lemma run_wellFormed (a : Admission) (moves : List Move) (h : a.table.WellFormed) :
    (a.run moves).table.WellFormed :=
  run_holds perform_wellFormed h moves

end Admission

/-- Every operation, and every exemption timer that an engine heeds, keeps a table well formed; and
so the table is well formed after every run that began with an empty one. -/
theorem exemption_table_stays_wellFormed :
    (∀ (a : Admission) (operation : Operation), a.table.WellFormed →
      (a.perform operation).table.WellFormed) ∧
    (∀ (e : Engine) (id : TimerId) (uid : Uid) (name : String) (mask : Mask),
      e.table.WellFormed → (e.handle (.timer id (.revokeExpired uid name mask))).table.WellFormed) ∧
    ∀ (a : Admission) (moves : List Move), a.table = Table.empty →
      (a.run moves).table.WellFormed := by
  refine ⟨Admission.perform_wellFormed, ?_, ?_⟩
  · intro e id uid name mask h
    exact e.toAdmission.perform_wellFormed (.expire uid name mask) h
  · intro a moves hempty
    refine a.run_wellFormed moves ?_
    rw [hempty]
    exact .empty

/-- The table with an expired exemption of `mail` is well formed, and so it is after a query has
found that, or the timer has been heeded. -/
theorem exemption_table_of_mail_wellFormed :
    let a := Admission.forMail.run [.operate (.grant mailRequest 77), .advance 61000]
    let e : Engine := { toAdmission := a, pluginName := mailPolicy.plugin, plugin := .standard }
    a.table.entries.length = 1 ∧ a.table.WellFormed ∧
      (a.perform (.allowList Mask.known .app)).table.WellFormed ∧
      (e.handle (.timer 1 (.revokeExpired 10001 "mail" mailRequest.mask))).table.WellFormed := by
  obtain ⟨hperform, htimer, hrun⟩ := exemption_table_stays_wellFormed
  have h := hrun Admission.forMail [.operate (.grant mailRequest 77), .advance 61000] rfl
  exact ⟨by decide +kernel, h, hperform _ _ h, htimer _ 1 10001 "mail" _ h⟩

end DeviceStandby
