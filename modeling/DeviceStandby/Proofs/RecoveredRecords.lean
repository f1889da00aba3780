import DeviceStandby.Proofs.Recoveries

/-!
# What recovery lets in

The stored document may hold anything: it may have been written by another version, or edited, or
cut short.  Recovery takes those members that read as records, whose masks are those of their
entries and not empty, and whose processes are running; that is all that it asks of them
(`recovered_records_are_as_stored`).  Under which names the members stand, to whom the records
belong, and whether two entries share a place, is as the document has it.

What recovery asks is enough for taking out again, with the timers that recovery arms or on request,
whatever stands under the key of its owner at the place of a kind: `revokeEntries` finds an entry by
the bit that it adds to the mask (`not_mem_of_revoke`).
-/

namespace DeviceStandby

namespace Admission

variable {a : Admission} {running : Option Processes} {uid : Uid} {name : String} {entry : Entry}

/-! ## Taking out what was recovered -/

/-- The exemption is none of the owner's. -/
def Lacks (a : Admission) (uid : Uid) (name : String) (entry : Entry) : Prop :=
  ∀ record, a.record? uid name = some record → entry ∉ record.entries

/-- Every way of revoking takes the exemption out: a timer for all kinds when it has ended, and
before that a request that names its place, and the removal of the app. -/
structure Removable (a : Admission) (uid : Uid) (name : String) (entry : Entry) : Prop where
  expires : entry.endTime ≤ a.host.now →
    (a.perform (.expire uid name Mask.known)).Lacks uid name entry
  revoked : ∀ mask : Mask, mask.getLsbD entry.index = true →
    (a.perform (.revoke uid name mask true)).Lacks uid name entry
  removed : (a.perform (.removeApp uid name true)).Lacks uid name entry

/-- From a record whose mask is that of its entries, revoking takes every entry that is meant. -/
lemma not_mem_of_revoke {mask : Mask} {force : Bool}
    (hmask : ∀ record, a.record? uid name = some record → record.mask = record.entriesMask)
    (hrevoked : entry.isRevoked mask force a.host.now = true) :
    (a.revoke uid name mask force).Lacks uid name entry := by
  intro rest hrest hentry
  rw [record?, revoke_table] at hrest
  have hkept := not_isRevoked_of_mem_rest hmask hrest entry hentry
  rw [hrevoked] at hkept
  cases hkept

/-- In a record whose mask is that of its entries, each entry at the place of a kind can be taken
out. -/
lemma removable_of_mask {kind : Resource}
    (hmask : ∀ record, a.record? uid name = some record → record.mask = record.entriesMask)
    (hkind : entry.index = kind.index) : a.Removable uid name entry where
  expires := by
    intro hended
    have hplace : Mask.known.getLsbD entry.index = true := by
      rw [hkind]
      exact Mask.getLsbD_known.2 kind.index_mem
    exact not_mem_of_revoke hmask (Entry.isRevoked_iff.2 ⟨hplace, Or.inr hended⟩)
  revoked := by
    intro mask hplace
    exact not_mem_of_revoke hmask (Entry.isRevoked_iff.2 ⟨hplace, Or.inl rfl⟩)
  removed := by
    have hplace : (removalMask true).getLsbD entry.index = true := by
      rw [hkind]
      exact Mask.getLsbD_known.2 kind.index_mem
    exact not_mem_of_revoke hmask (Entry.isRevoked_iff.2 ⟨hplace, Or.inl rfl⟩)

/-! ## The timers of what was recovered -/

/-- For each exemption that was recovered a timer is armed, for its end or for now if the end is in
reach. -/
lemma exists_timer_of_mem_recovered (hworks : a.host.timers.failing = false) {key : String}
    {record : Record} (hmem : (key, record) ∈ a.recovered running)
    (hentry : entry ∈ record.entries) :
    ∃ timer ∈ (a.recover running).host.timers.pending,
      timer.task = .revokeExpired record.uid record.name Mask.known ∧
      (entry.InReach a.host.now → timer.due = max entry.endTime a.host.now) := by
  obtain ⟨-, ⟨more, harms, hall⟩, -⟩ := recover_spec running hworks
  obtain ⟨timer, htimer, htask, hdue⟩ := hall (key, record) hmem entry hentry
  have hrevokes : timer ∈ (a.recover running).host.timers.revokes := by
    rw [harms.revokes]
    exact List.mem_append_right _ htimer
  exact ⟨timer, TimerSource.mem_pending_of_mem_revokes hrevokes, htask,
    fun hreach => hdue.trans hreach.due_eq⟩

end Admission

/-- Every record that is there after recovery into an empty table is what the stored document has
under the same key; its process is running under its name, and its mask is that of its entries and
not empty.  If it stands under the key of its owner, then for each entry at the place of a kind
there is a timer, for its end if that is in reach of the clock, and as long as the record is there
the entry can be taken out in every way. -/
theorem recovered_records_are_as_stored (a : Admission) (running : Option Processes)
    (hempty : a.table = Table.empty) (hworks : a.host.timers.failing = false) :
    ∀ key record, (a.recover running).table.get? key = some record →
      (∃ document, a.host.store.load recordsDocument = .ok (some document) ∧
        document.HasRecord key record) ∧
      (∃ processes, running = some processes ∧
        processes.name? record.pid = some record.name) ∧
      record.mask ≠ 0 ∧ record.mask = record.entriesMask ∧
      (key = recordKey record.uid record.name →
        ∀ entry ∈ record.entries, ∀ kind : Resource, entry.index = kind.index →
          (∃ timer ∈ (a.recover running).host.timers.pending,
            timer.task = .revokeExpired record.uid record.name Mask.known ∧
            (entry.InReach a.host.now → timer.due = max entry.endTime a.host.now)) ∧
          ∀ b : Admission, b.table.get? key = some record →
            b.Removable record.uid record.name entry) := by
  intro key record hget
  rw [Admission.table_recover, hempty] at hget
  have hmem : (key, record) ∈ a.recovered running := by
    rcases Admission.get?_foldl_insert hget with hmem | ⟨-, hnone⟩
    · exact hmem
    · cases hnone
  obtain ⟨processes, document, hrunning, hload, hstored, hconsistent, hname⟩ :=
    Admission.mem_recovered_iff.1 hmem
  obtain ⟨hfull, hmask⟩ := Bool.and_eq_true_iff.1 hconsistent
  refine ⟨⟨document, hload, hstored⟩, ⟨processes, hrunning, hname⟩, bne_iff_ne.1 hfull,
    beq_iff_eq.1 hmask, ?_⟩
  intro hkey entry hentry kind hkind
  refine ⟨Admission.exists_timer_of_mem_recovered hworks hmem hentry, ?_⟩
  intro b hfound
  refine Admission.removable_of_mask ?_ hkind
  intro other hother
  rw [Admission.record?, ← hkey, hfound] at hother
  obtain rfl := Option.some.inj hother
  exact beq_iff_eq.1 hmask

/-! ## An example -/

/-- A record of the process 77, which is called `mail`. -/
def mailRecord (uid : Uid) (mask : Mask) (entries : List Entry) : Record where
  uid := uid
  pid := 77
  name := "mail"
  mask := mask
  reasonCode := 1
  entries := entries

/-- A stored table that no service has written: one owner's number is negative, one record has two
entries at one place, one an entry at the place that is kept free, and one stands under no owner's
key. -/
def editedDocument : Value := .record [
  ("-5_mail", (mailRecord (-5) 2 [⟨1, 60000, "sync"⟩]).toValue),
  ("10001_mail", (mailRecord 10001 2 [⟨1, 60000, "sync"⟩, ⟨1, 90000, "sync"⟩]).toValue),
  ("7_mail", (mailRecord 7 1 [⟨0, 60000, "sync"⟩]).toValue),
  ("stray", (mailRecord 8 2 [⟨1, 60000, "sync"⟩]).toValue)]

/-- An empty exemption table, over a store that has the edited one. -/
def Admission.forEdited : Admission :=
  { Admission.forMail with host := ({} : Host).save recordsDocument editedDocument }

/-- Both entries that share a place can be taken out after recovery. -/
theorem recovered_records_are_as_stored_for_mail :
    let b := Admission.forEdited.recover (some [(77, "mail")])
    b.record? 10001 "mail"
        = some (mailRecord 10001 2 [⟨1, 60000, "sync"⟩, ⟨1, 90000, "sync"⟩]) ∧
      b.Removable 10001 "mail" ⟨1, 60000, "sync"⟩ ∧
      b.Removable 10001 "mail" ⟨1, 90000, "sync"⟩ := by
  intro b
  have hget : b.table.get? "10001_mail"
      = some (mailRecord 10001 2 [⟨1, 60000, "sync"⟩, ⟨1, 90000, "sync"⟩]) := by decide +kernel
  have hkey : "10001_mail" = recordKey 10001 "mail" := by decide +kernel
  obtain ⟨-, -, -, -, hentries⟩ := recovered_records_are_as_stored Admission.forEdited
    (some [(77, "mail")]) rfl rfl "10001_mail" _ hget
  have hremovable : ∀ entry ∈ [(⟨1, 60000, "sync"⟩ : Entry), ⟨1, 90000, "sync"⟩],
      b.Removable 10001 "mail" entry := by
    intro entry hmem
    have hplace : entry.index = Resource.network.index := by
      simp only [List.mem_cons, List.not_mem_nil, or_false] at hmem
      rcases hmem with rfl | rfl <;> rfl
    exact (hentries hkey entry hmem .network hplace).2 b hget
  rw [Admission.record?, ← hkey]
  exact ⟨hget, hremovable _ (by simp), hremovable _ (by simp)⟩

/-- All four records are let in.  One owner's number is negative, two entries share a place, one
entry is at the place that is kept free, and the record under no owner's key is neither revoked when
its exemption has ended, nor on request, nor when the app is removed. -/
theorem recovery_lets_misfits_in :
    let b := Admission.forEdited.recover (some [(77, "mail")])
    b.table.entries.map (fun entry => (entry.1, entry.2.uid, entry.2.entries.map Entry.index)) =
        [("-5_mail", -5, [1]), ("10001_mail", 10001, [1, 1]), ("7_mail", 7, [0]),
          ("stray", 8, [1])] ∧
      (∃ record, b.table.get? "stray" = some record ∧
        "stray" ≠ recordKey record.uid record.name) ∧
      (b.run [.advance 60000, .operate (.expire 8 "mail" Mask.known),
        .operate (.revoke 8 "mail" Mask.known true), .operate (.removeApp 8 "mail" true)]).table
        = b.table ∧
      ¬ b.table.WellFormed := by
  intro b
  have hstray : b.table.get? "stray" = some (mailRecord 8 2 [⟨1, 60000, "sync"⟩]) := by
    decide +kernel
  have hkey : "stray" ≠ recordKey 8 "mail" := by decide +kernel
  refine ⟨by decide +kernel, ⟨_, hstray, hkey⟩, by decide +kernel, ?_⟩
  intro hwell
  exact hkey (hwell _ _ hstray).1

end DeviceStandby
