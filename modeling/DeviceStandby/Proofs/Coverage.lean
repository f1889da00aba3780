import DeviceStandby.Proofs.EngineSteps
import DeviceStandby.Proofs.Recoveries

/-!
# Every exemption has its timer

A timer covers an exemption (`ArmedTimer.Covers`) if it revokes exemptions of this owner and this
kind, and is due when the exemption has ended; and if it is due no later than that, or than the
exemption was recovered.  A grant arms a timer for the end of each kind that is granted, recovery
arms one for each exemption that it takes over, and no timer of this sort is ever cancelled.

`Engine.Guarded` is the invariant that follows: every exemption of the table is covered by a timer
that is armed, or has fired and was not heeded yet.  A timer that is heeded takes out what it
covers, since that has ended by then (`Engine.Guarded.heed`).
-/

namespace DeviceStandby

/-- When each exemption was recovered last, under the key of its owner and the place of its kind. -/
abbrev RecoveryTimes := String → Nat → Option Int

/-- The end of an exemption, or the time at which it was recovered if that is later. -/
def latestDue (endTime : Int) : Option Int → Int
  | none => endTime
  | some recovered => max endTime recovered

lemma le_latestDue (endTime : Int) (recovered : Option Int) :
    endTime ≤ latestDue endTime recovered := by
  cases recovered with
  | none => exact Int.le_refl _
  | some recovered => exact Int.le_max_left _ _

/-- The timer revokes an exemption of a record when it has ended, and no later than it should. -/
structure ArmedTimer.Covers (timer : ArmedTimer) (record : Record) (entry : Entry)
    (recovered : Option Int) : Prop where
  revokes : ∃ mask, timer.task = .revokeExpired record.uid record.name mask ∧
    mask.meets entry.bit = true
  not_early : entry.endTime ≤ timer.due
  not_late : timer.due ≤ latestDue entry.endTime recovered

/-- Every exemption of the table is covered by one of the timers. -/
def RecordTable.Covered (table : RecordTable) (timers : List ArmedTimer) (times : RecoveryTimes) :
    Prop :=
  ∀ key record, table.get? key = some record → ∀ entry ∈ record.entries,
    ∃ timer ∈ timers, timer.Covers record entry (times key entry.index)

/-- What covers an exemption covers every exemption of the same owner, kind and end. -/
lemma ArmedTimer.Covers.congr {timer : ArmedTimer} {record other : Record} {entry exemption : Entry}
    {recovered : Option Int} (h : timer.Covers record entry recovered)
    (huid : record.uid = other.uid) (hname : record.name = other.name)
    (hindex : entry.index = exemption.index) (hend : entry.endTime = exemption.endTime) :
    timer.Covers other exemption recovered := by
  obtain ⟨⟨mask, htask, hmeets⟩, hearly, hlate⟩ := h
  rw [huid, hname] at htask
  rw [Entry.bit, hindex, ← Entry.bit] at hmeets
  rw [hend] at hearly hlate
  exact ⟨⟨mask, htask, hmeets⟩, hearly, hlate⟩

/-- The engine is in order, what is stored is the document of a well-formed table, the timers that
fired were due, no recovery is yet to come, and each exemption is covered by a timer that is armed
or has fired. -/
structure Engine.Guarded (e : Engine) (fired : List ArmedTimer) (times : RecoveryTimes) : Prop where
  wellFormed : e.table.WellFormed
  stored : e.toAdmission.StoresWellFormed
  tidy : e.Tidy
  arming : e.host.timers.failing = false
  past : ∀ timer ∈ fired, timer.due ≤ e.host.now
  timesPast : ∀ key index moment, times key index = some moment → moment ≤ e.host.now
  covered : e.table.Covered (e.host.timers.revokes ++ fired) times

namespace Engine.Guarded

variable {e next : Engine} {fired : List ArmedTimer} {times : RecoveryTimes}

lemma quiet (h : e.Guarded fired times) (hquiet : Quiet e next) : next.Guarded fired times := by
  obtain ⟨htidy, hhost⟩ := hquiet.tidy h.tidy
  refine ⟨?_, ?_, htidy, ?_, ?_, ?_, ?_⟩
  · rw [hquiet.table]
    exact h.wellFormed
  · rw [Admission.StoresWellFormed, Admission.document?, hhost.stored]
    exact h.stored
  · rw [hhost.arming, h.arming]
  · rw [hhost.now]
    exact h.past
  · rw [hhost.now]
    exact h.timesPast
  · rw [hquiet.table, hhost.revokes_eq]
    exact h.covered

end Engine.Guarded

/-! ## Grants -/

namespace Admission

variable {a : Admission} {request : Request} {mask : Mask} {pid : Pid}

lemma grantKinds_timers : (a.grantKinds request mask pid).host.timers =
    (armRevokes a.host request mask (a.grantsOf request mask)).timers := by
  rw [grantKinds_eq, grantSaved]
  split <;> split <;> simp [notify, persist, armed]

/-- A grant arms a timer for the end of each kind that is granted. -/
lemma grantKinds_arms (a : Admission) {request : Request} (mask : Mask) (pid : Pid)
    (hworks : a.host.timers.failing = false) (hrange : request.InRange) :
    ∃ more, Host.Arms a.host more (a.grantKinds request mask pid).host ∧
      ∀ grant ∈ a.grantsOf request mask, ∃ timer ∈ more,
        timer.task = .revokeExpired request.uid request.name mask ∧
        timer.due = a.host.now + grant.2 := by
  obtain ⟨more, harms, hall⟩ :=
    Host.Arms.foldl (fun _ (grant : Resource × Nat) => grant.2)
      (fun _ => .revokeExpired request.uid request.name mask) (fun _ => rfl) hworks
      (a.grantsOf request mask)
  refine ⟨more, ?_, fun grant hmem => ?_⟩
  · rw [← List.append_nil more]
    exact harms.trans (.of_same grantKinds_timers)
  · obtain ⟨timer, htimer, htask, hdue⟩ := hall grant hmem
    obtain ⟨-, seconds, -, hseconds, hmillis⟩ := Policy.mem_grants hmem
    -- No number of seconds that fits 32 bits is too long.
    have hmax := hrange.durationSecs_le
    have hgreatest : Width.int64.greatest = 0x7FFFFFFFFFFFFFFF := rfl
    have hcut : wrap64 (grant.2 : Int) = grant.2 :=
      wrap64_of_le (Int.natCast_nonneg _) (by omega)
    exact ⟨timer, htimer, htask, by rw [hdue, hcut]⟩

/-- After a grant each exemption is covered: it is one that was covered before, or its end is that
of a kind that is granted. -/
lemma grantKinds_covered {timers more : List ArmedTimer} {times : RecoveryTimes}
    (htable : a.table.Holds Record.Sound) (hcovered : a.table.Covered timers times)
    (hmore : ∀ grant ∈ a.grantsOf request mask, ∃ timer ∈ more,
      timer.task = .revokeExpired request.uid request.name mask ∧
      timer.due = a.host.now + grant.2) :
    (a.grantKinds request mask pid).table.Covered (timers ++ more) times := by
  intro key record hget entry hentry
  rw [grantKinds_table] at hget
  rcases get?_tableAfter hget with ⟨rfl, rfl⟩ | hbefore
  · obtain ⟨huid, hname, -⟩ := recordBefore_spec htable request pid
    rw [recordAfter_entries] at hentry
    rcases Record.mem_extendAll hentry with
      ⟨old, hold, hindex, hend⟩ | ⟨grant, hgrant, hindex, hend⟩
    · obtain ⟨timer, htimer, hcovers⟩ := hcovered _ _ (get?_of_mem_recordBefore hold) old hold
      rw [hindex] at hcovers
      refine ⟨timer, List.mem_append_left _ htimer, hcovers.congr ?_ ?_ hindex hend⟩
      · rw [recordAfter_uid]
      · rw [recordAfter_name]
    · obtain ⟨timer, htimer, htask, hdue⟩ := hmore grant hgrant
      have hkind : mask.getLsbD entry.index = true := hindex ▸ (Policy.mem_grants hgrant).1
      refine ⟨timer, List.mem_append_right _ htimer, ⟨mask, ?_, ?_⟩, ?_, ?_⟩
      · rw [htask, recordAfter_uid, recordAfter_name, huid, hname]
      · rw [Entry.bit, Mask.meets_bit, hkind]
      · omega
      · rw [hdue, hend]
        exact le_latestDue _ _
  · obtain ⟨timer, htimer, hcovers⟩ := hcovered key record hbefore entry hentry
    exact ⟨timer, List.mem_append_left _ htimer, hcovers⟩

end Admission

/-! ## Operations -/

lemma Revocation.covered {now : Int} {table last : RecordTable} {reaped : List Revoked}
    {timers : List ArmedTimer} {times : RecoveryTimes} (h : Revocation now table reaped last)
    (htable : table.Holds Record.Sound) (hcovered : table.Covered timers times) :
    last.Covered timers times := by
  intro key record hget entry hentry
  obtain ⟨old, hold, huid, hname, hentries⟩ := h.mem_of_mem_last htable hget
  obtain ⟨timer, htimer, hcovers⟩ := hcovered key old hold entry (hentries entry hentry)
  exact ⟨timer, htimer, hcovers.congr huid hname rfl rfl⟩

namespace Admission

variable {a : Admission}

lemma settle_timers (table : RecordTable) (reaped : List Revoked) :
    (a.settle table reaped).host.timers = a.host.timers := by
  rw [settle_frame (fun a => a.host.timers) (fun _ _ _ _ => by simp [notify]), settled]
  split <;> simp [persist]

/-- Every operation arms a timer for each exemption that it makes or prolongs, and none is lost. -/
lemma perform_covered {timers : List ArmedTimer} {times : RecoveryTimes} (operation : Operation)
    (hrange : operation.InRange) (htable : a.table.Holds Record.Sound)
    (hworks : a.host.timers.failing = false) (hcovered : a.table.Covered timers times) :
    ∃ more, Host.Arms a.host more (a.perform operation).host ∧
      (a.perform operation).table.Covered (timers ++ more) times := by
  rcases a.perform_cases operation with
    ⟨request, pid, mask, rfl, -, -, -, hperform⟩ | ⟨reaped, table, hchain, hperform⟩
  · obtain ⟨more, harms, hmore⟩ := a.grantKinds_arms mask pid hworks hrange
    rw [hperform]
    exact ⟨more, harms, grantKinds_covered htable hcovered hmore⟩
  · rw [hperform, settle_table]
    refine ⟨[], .of_same (settle_timers table reaped), ?_⟩
    rw [List.append_nil]
    exact hchain.covered htable hcovered

end Admission

namespace Engine

lemma Tidy.arms {e next : Engine} {more : List ArmedTimer} (h : e.Tidy)
    (harms : Host.Arms e.host more next.host) (hmachine : next.machine = e.machine)
    (hdayNight : next.dayNightTimer = e.dayNightTimer) : next.Tidy := by
  refine ⟨harms.numbered h.numbered, ?_, ?_, ?_⟩
  · rw [hmachine]
    exact fun id hid => harms.foreign (h.state id hid)
  · rw [hmachine]
    exact fun id hid => harms.foreign (h.phase id hid)
  · rw [hdayNight]
    exact fun id hid => harms.foreign (h.dayNight id hid)

namespace Guarded

variable {e next : Engine} {fired : List ArmedTimer} {times : RecoveryTimes}

lemma operate (h : e.Guarded fired times) (operation : Operation) (hrange : operation.InRange) :
    (e.withAdmission (e.toAdmission.perform operation)).Guarded fired times := by
  obtain ⟨more, harms, hcovered⟩ :=
    Admission.perform_covered operation hrange h.wellFormed.sound h.arming h.covered
  refine ⟨e.toAdmission.perform_wellFormed operation h.wellFormed, ?_, h.tidy.arms harms rfl rfl,
    harms.arming.trans h.arming, ?_, ?_, ?_⟩
  · rcases e.toAdmission.perform_saves operation h.wellFormed with hsaved | ⟨hkept, -⟩
    · exact Or.inr ⟨_, e.toAdmission.perform_wellFormed operation h.wellFormed, hsaved⟩
    · show Admission.StoresWellFormed (e.toAdmission.perform operation)
      rw [Admission.StoresWellFormed, hkept]
      exact h.stored
  · intro timer hmem
    exact harms.now ▸ h.past timer hmem
  · intro key index moment hmoment
    exact harms.now ▸ h.timesPast key index moment hmoment
  · intro key record hget entry hentry
    obtain ⟨timer, hmem, hcovers⟩ := hcovered key record hget entry hentry
    refine ⟨timer, ?_, hcovers⟩
    show timer ∈ (e.toAdmission.perform operation).host.timers.revokes ++ fired
    rw [harms.revokes]
    simp only [List.mem_append] at hmem ⊢
    exact hmem.elim (fun hold => hold.imp_left Or.inl) (fun hnew => Or.inl (Or.inr hnew))

lemma evolves (h : e.Guarded fired times) (hevolves : Evolves Operation.InRange e next) :
    next.Guarded fired times := by
  induction hevolves with
  | quiet hquiet => exact h.quiet hquiet
  | operate e operation hrange => exact h.operate operation hrange
  | trans _ _ ihfirst ihsecond => exact ihsecond (ihfirst h)

end Guarded

end Engine

/-! ## Timers that fire -/

/-- The engine after the clock was moved; the timers that fired are heeded later, or never. -/
def Engine.advance (e : Engine) (millis : Nat) : Engine :=
  { e with host := { e.host with timers := (e.host.timers.advance millis).2 } }

lemma Engine.Tidy.advance {e : Engine} (h : e.Tidy) (millis : Nat) : (e.advance millis).Tidy := by
  have hold : ∀ timer ∈ (e.advance millis).host.timers.revokes, timer ∈ e.host.timers.revokes := by
    intro timer hmem
    obtain ⟨hpending, htask⟩ := List.mem_filter.1 hmem
    exact List.mem_filter.2 ⟨(List.mem_filter.1 hpending).1, htask⟩
  have hforeign : ∀ id, e.host.timers.Foreign id → (e.advance millis).host.timers.Foreign id :=
    fun id hid => ⟨hid.1, fun timer hmem => hid.2 timer (hold timer hmem)⟩
  exact ⟨fun timer hmem => h.numbered timer (hold timer hmem),
    fun id hid => hforeign id (h.state id hid), fun id hid => hforeign id (h.phase id hid),
    fun id hid => hforeign id (h.dayNight id hid)⟩

namespace Engine.Guarded

variable {e : Engine} {fired : List ArmedTimer} {times : RecoveryTimes}

/-- Time goes by: the timers that are due fire, and all others stay armed. -/
lemma advance (h : e.Guarded fired times) {millis : Nat} (hforward : 0 ≤ wrap64 millis) :
    (e.advance millis).Guarded (fired ++ (e.host.timers.advance millis).1) times := by
  have hnow : (e.advance millis).host.now = e.host.now + wrap64 millis := rfl
  refine ⟨h.wellFormed, h.stored, h.tidy.advance millis, h.arming, ?_, ?_, ?_⟩
  · intro timer hmem
    rcases List.mem_append.1 hmem with hmem | hmem
    · have hpast := h.past timer hmem
      omega
    · exact of_decide_eq_true (List.mem_filter.1 (TimerSource.mem_byDue.1 hmem)).2
  · intro key index moment hmoment
    have hpast := h.timesPast key index moment hmoment
    omega
  · intro key record hget entry hentry
    obtain ⟨timer, hmem, hcovers⟩ := h.covered key record hget entry hentry
    refine ⟨timer, ?_, hcovers⟩
    rcases List.mem_append.1 hmem with hmem | hmem
    · obtain ⟨hpending, htask⟩ := List.mem_filter.1 hmem
      by_cases hdue : timer.due ≤ e.host.now + wrap64 millis
      · refine List.mem_append_right _ (List.mem_append_right _ (TimerSource.mem_byDue.2 ?_))
        exact List.mem_filter.2 ⟨hpending, decide_eq_true hdue⟩
      · refine List.mem_append_left _ (List.mem_filter.2 ⟨?_, htask⟩)
        exact List.mem_filter.2 ⟨hpending, decide_eq_true hdue⟩
    · exact List.mem_append_right _ (List.mem_append_left _ hmem)

/-- A timer that covers nothing may be forgotten. -/
lemma forget (h : e.Guarded fired times) {timer : ArmedTimer}
    (hnothing : ∀ key record, e.table.get? key = some record → ∀ entry ∈ record.entries,
      ¬ timer.Covers record entry (times key entry.index)) :
    e.Guarded (fired.erase timer) times := by
  refine ⟨h.wellFormed, h.stored, h.tidy, h.arming,
    fun other hmem => h.past other (List.mem_of_mem_erase hmem), h.timesPast, ?_⟩
  intro key record hget entry hentry
  obtain ⟨other, hmem, hcovers⟩ := h.covered key record hget entry hentry
  refine ⟨other, ?_, hcovers⟩
  rcases List.mem_append.1 hmem with hmem | hmem
  · exact List.mem_append_left _ hmem
  · have hne : other ≠ timer := fun heq => hnothing key record hget entry hentry (heq ▸ hcovers)
    exact List.mem_append_right _ ((List.mem_erase_of_ne hne).2 hmem)

/-- A timer that has fired covers nothing any more when it was heeded. -/
lemma not_covers_of_heeded (h : e.Guarded fired times) {timer : ArmedTimer} (hmem : timer ∈ fired)
    {key : String} {record : Record} {entry : Entry}
    (hget : (e.handle (.timer timer.id timer.task)).table.get? key = some record)
    (hentry : entry ∈ record.entries) :
    ¬ timer.Covers record entry (times key entry.index) := by
  rintro ⟨⟨mask, htask, hmeets⟩, hearly, -⟩
  have hpast := h.past timer hmem
  have htable : (e.handle (.timer timer.id timer.task)).table =
      (revokeEntries e.table (recordKey record.uid record.name) mask false e.host.now).2 := by
    rw [htask]
    exact e.toAdmission.revoke_table record.uid record.name mask false
  have hkey : key = recordKey record.uid record.name :=
    ((evolves_handle e _).wellFormed h.wellFormed key record hget).1
  rw [htable, hkey] at hget
  have hkept := not_isRevoked_of_mem_rest
    (fun record hget => (h.wellFormed _ record hget).2.mask_eq) hget entry hentry
  rw [Entry.bit, Mask.meets_bit] at hmeets
  have hrevoked : entry.isRevoked mask false e.host.now = true :=
    Entry.isRevoked_iff.2 ⟨hmeets, Or.inr (by omega)⟩
  rw [hkept] at hrevoked
  cases hrevoked

/-- A timer that has fired is heeded. -/
lemma heed (h : e.Guarded fired times) {timer : ArmedTimer} (hmem : timer ∈ fired) :
    (e.handle (.timer timer.id timer.task)).Guarded (fired.erase timer) times := by
  have hafter := h.evolves (evolves_handle e (.timer timer.id timer.task))
  exact hafter.forget (fun key record hget entry hentry => h.not_covers_of_heeded hmem hget hentry)

end Engine.Guarded

/-! ## Recovery -/

/-- The times of recovery after these records were recovered at `now`. -/
def RecoveryTimes.after (times : RecoveryTimes) (now : Int) (records : List (String × Record)) :
    RecoveryTimes := fun key index =>
  if records.any (fun entry =>
    entry.1 = key && entry.2.entries.any (fun entry => entry.index = index))
  then some now else times key index

lemma RecoveryTimes.after_of_mem {times : RecoveryTimes} {now : Int}
    {records : List (String × Record)} {key : String} {record : Record} {entry : Entry}
    (hmem : (key, record) ∈ records) (hentry : entry ∈ record.entries) :
    times.after now records key entry.index = some now := by
  refine if_pos (List.any_eq_true.2 ⟨(key, record), hmem, ?_⟩)
  simpa using ⟨entry, hentry, rfl⟩

lemma RecoveryTimes.after_of_notMem {times : RecoveryTimes} {now : Int}
    {records : List (String × Record)} {key : String} (h : ∀ entry ∈ records, entry.1 ≠ key)
    (index : Nat) : times.after now records key index = times key index := by
  refine if_neg (fun hany => ?_)
  obtain ⟨entry, hmem, hentry⟩ := List.any_eq_true.1 hany
  exact h entry hmem (of_decide_eq_true (Bool.and_eq_true_iff.1 hentry).1)

namespace Engine.Guarded

variable {e next : Engine} {fired : List ArmedTimer} {times : RecoveryTimes}

/-- Recovery keeps the invariant, if no end is further from the clock than this can tell: it arms a
timer for each exemption that it takes over. -/
lemma recover (h : e.Guarded fired times) (running : Option Processes)
    (hends : ∀ entry ∈ e.toAdmission.recovered running, ∀ exemption ∈ entry.2.entries,
      exemption.InReach e.host.now) :
    (e.withAdmission (e.toAdmission.recover running)).Guarded fired
      (times.after e.host.now (e.toAdmission.recovered running)) := by
  obtain ⟨htable, ⟨more, harms, hmore⟩, hdocument⟩ :=
    Admission.recover_spec running h.arming
  have hfound : ∀ key record, (e.toAdmission.recover running).table.get? key = some record →
      (key, record) ∈ e.toAdmission.recovered running ∨
        (∀ entry ∈ e.toAdmission.recovered running, entry.1 ≠ key) ∧
          e.table.get? key = some record := by
    intro key record hget
    rw [htable] at hget
    exact Admission.get?_foldl_insert hget
  have hwell : (e.toAdmission.recover running).table.WellFormed := by
    intro key record hget
    rcases hfound key record hget with hmem | ⟨-, hold⟩
    · obtain ⟨hkey, hstorable⟩ := Admission.mem_recovered h.stored hmem
      exact ⟨hkey, hstorable.1⟩
    · exact h.wellFormed key record hold
  refine ⟨hwell, ?_, h.tidy.arms harms rfl rfl, harms.arming.trans h.arming, ?_, ?_, ?_⟩
  · rcases hdocument with hsaved | hkept
    · exact Or.inr ⟨_, hwell, hsaved⟩
    · show Admission.StoresWellFormed (e.toAdmission.recover running)
      rw [Admission.StoresWellFormed, hkept]
      exact h.stored
  · intro timer hmem
    exact harms.now ▸ h.past timer hmem
  · intro key index moment hmoment
    have hnow : (e.withAdmission (e.toAdmission.recover running)).host.now = e.host.now := harms.now
    rw [hnow]
    unfold RecoveryTimes.after at hmoment
    split at hmoment
    · exact Int.le_of_eq (Option.some.inj hmoment).symm
    · exact h.timesPast key index moment hmoment
  · intro key record hget entry hentry
    have hrevokes : (e.withAdmission (e.toAdmission.recover running)).host.timers.revokes
        = e.host.timers.revokes ++ more := harms.revokes
    rw [hrevokes]
    rcases hfound key record hget with hmem | ⟨hother, hold⟩
    · obtain ⟨timer, htimer, htask, hdue⟩ := hmore (key, record) hmem entry hentry
      have hdue : timer.due = max entry.endTime e.host.now :=
        hdue.trans (hends (key, record) hmem entry hentry).due_eq
      refine ⟨timer, by simp [htimer], ⟨Mask.known, htask, ?_⟩, ?_, ?_⟩
      · rw [Entry.bit, Mask.meets_bit]
        exact Mask.getLsbD_known.2 ((Admission.mem_recovered h.stored hmem).2.1.known entry hentry)
      · rw [hdue]
        exact Int.le_max_left _ _
      · rw [RecoveryTimes.after_of_mem hmem hentry, hdue]
        exact Int.le_refl _
    · obtain ⟨timer, htimer, hcovers⟩ := h.covered key record hold entry hentry
      rw [RecoveryTimes.after_of_notMem hother]
      refine ⟨timer, ?_, hcovers⟩
      simp only [List.mem_append] at htimer ⊢
      exact htimer.imp_left Or.inl

end Engine.Guarded

end DeviceStandby
