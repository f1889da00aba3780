import DeviceStandby.Proofs.RecoveredRecords
import Mathlib.Algebra.Group.Nat.Defs

/-!
# Recovery into an empty table

What a service finds stored when it starts may be any document at all.  Recovery takes from it the
members that read as records, have the masks of their entries, which are not empty, and belong to
processes that are running; all others are dropped, and every member is counted as one or the other
(`storedRecords_length`).  If the table is empty before, it consists of the members that were taken
then, in the order of the document (`Admission.entries_recover`).

The host changes in three ways only (`Admission.recover_loaded`): a timer is armed for every entry,
record after record; the table is saved; and the two numbers are put on record.
-/

namespace DeviceStandby

/-! ## Documents -/

namespace Value

/-- The members of the document, if it has any, are in order of their names, and no name is there
twice. -/
def Ordered (document : Value) : Prop :=
  ∀ members, document = .record members → members.Pairwise (fun a b => a.1 < b.1)

/-- How many members the document has; none if it is no record. -/
def memberCount : Value → Nat
  | .record members => members.length
  | _ => 0

lemma restoredMembers_eq_map (members : List (String × Value)) :
    restoredMembers members = members.map (fun member => (member.1, member.2.restored)) := by
  induction members with
  | nil => rfl
  | cons member members ih =>
    obtain ⟨name, value⟩ := member
    rw [restoredMembers, ih]
    rfl

/-- Every document that was saved is in order. -/
lemma ordered_stored (value : Value) : value.canonical.restored.Ordered := by
  intro members hmembers
  cases value with
  | record stored =>
    rw [canonical, restored, restoredMembers_eq_map] at hmembers
    obtain rfl := record.inj hmembers
    exact List.pairwise_map.2 (Table.ofList (canonicalMembers stored)).sorted
  | null | bool | number | text | list =>
    simp [canonical, restored] at hmembers

end Value

/-- Every member of a stored document is a consistent record, or it is counted as none. -/
lemma storedRecords_length (document : Value) :
    (storedRecords document).1.length + (storedRecords document).2 = document.memberCount := by
  cases document with
  | record members =>
    rw [storedRecords, Value.memberCount]
    induction members with
    | nil => rfl
    | cons member members ih =>
      rw [List.foldr_cons, List.length_cons, ← ih]
      cases Record.ofValue? member.2 with
      | none => exact (Nat.add_assoc _ _ _).symm
      | some record =>
        cases hconsistent : record.isConsistent <;> simp [hconsistent] <;> omega
  | null | bool | number | text | list => rfl

/-- The records of an ordered document are in order. -/
lemma storedRecords_pairwise {document : Value} (h : document.Ordered) :
    (storedRecords document).1.Pairwise (fun a b => a.1 < b.1) := by
  cases document with
  | record members =>
    rw [storedRecords_record]
    refine List.pairwise_filterMap.2 ((h members rfl).imp (fun {a b} hlt x hx y hy => ?_))
    obtain ⟨_, -, rfl⟩ := Option.map_eq_some_iff.1 hx
    obtain ⟨_, -, rfl⟩ := Option.map_eq_some_iff.1 hy
    exact hlt
  | null | bool | number | text | list => exact List.Pairwise.nil

/-- The mask of some entries as a number: the union of the powers of two of their places, as far as
these lie within 32 bits. -/
lemma toNat_entriesMask (entries : List Entry) : (entriesMask entries).toNat
    = entries.foldl (fun mask entry => mask ||| if entry.index ≤ 31 then 2 ^ entry.index else 0)
      0 := by
  have hbit : ∀ entry : Entry,
      entry.bit.toNat = if entry.index ≤ 31 then 2 ^ entry.index else 0 := by
    intro entry
    unfold Entry.bit Mask.bit
    by_cases hplace : entry.index ≤ 31
    · have hlt : entry.index < 32 := by omega
      have hpow : 2 ^ entry.index < 2 ^ 32 := Nat.pow_lt_pow_right (by decide) hlt
      rw [if_pos hplace, if_pos hlt, BitVec.toNat_twoPow, Nat.mod_eq_of_lt hpow]
    · have hge : ¬ entry.index < 32 := by omega
      rw [if_neg hplace, if_neg hge]
      rfl
  have hfold : ∀ (entries : List Entry) (mask : Mask),
      (entries.foldl (fun mask entry => mask ||| entry.bit) mask).toNat = entries.foldl
        (fun mask entry => mask ||| if entry.index ≤ 31 then 2 ^ entry.index else 0)
        mask.toNat := by
    intro entries
    induction entries with
    | nil => exact fun _ => rfl
    | cons entry rest ih =>
      intro mask
      rw [List.foldl_cons, List.foldl_cons, ih, BitVec.toNat_or, hbit]
  exact hfold entries 0

/-! ## Timers -/

/-- The source after some timers were armed one after the other, each with its delay. -/
def TimerSource.afterArming (source : TimerSource) (timers : List (Int × TimerTask)) :
    TimerSource :=
  { source with
    nextId := source.nextId + timers.length
    pending := source.pending ++ (timers.zipIdx source.nextId).map (fun numbered =>
      ⟨numbered.2, source.now + wrap64 numbered.1.1, numbered.1.2⟩) }

/-- The host after some timers were armed one after the other, each with its delay. -/
def Host.afterArming (host : Host) (timers : List (Int × TimerTask)) : Host :=
  { host with timers := host.timers.afterArming timers }

lemma Host.afterArming_append (host : Host) (timers more : List (Int × TimerTask)) :
    (host.afterArming timers).afterArming more = host.afterArming (timers ++ more) := by
  simp [afterArming, TimerSource.afterArming, List.zipIdx_append, Nat.add_assoc]

/-- The timers for the ends of the entries of a record, in their order, each with the time that is
left; what has ended is due at once. -/
def Record.expiries (now : Int) (record : Record) : List (Int × TimerTask) :=
  record.entries.map (fun entry =>
    (max 0 (entry.timeLeft now), .revokeExpired record.uid record.name Mask.known))

namespace Admission

variable {a : Admission} {running : Processes} {document : Value}

/-- A source that works arms one timer for each entry of a record. -/
lemma armExpiries_eq {host : Host} (hworks : host.timers.failing = false) (record : Record) :
    armExpiries host record = host.afterArming (record.expiries host.now) := by
  unfold armExpiries Record.expiries
  induction record.entries generalizing host with
  | nil => simp [Host.afterArming, TimerSource.afterArming]
  | cons entry entries ih =>
    have harmed : (host.arm (entry.timeLeft host.now).toNat
          (.revokeExpired record.uid record.name Mask.known)).2
        = host.afterArming [(max 0 (entry.timeLeft host.now),
            .revokeExpired record.uid record.name Mask.known)] := by
      simp [Host.arm, TimerSource.arm, TimerSource.armAt, Host.afterArming,
        TimerSource.afterArming, Host.now, hworks, max_comm]
    have hnext : (host.arm (entry.timeLeft host.now).toNat
        (.revokeExpired record.uid record.name Mask.known)).2.timers.failing = false := by
      rw [harmed]
      exact hworks
    rw [List.foldl_cons, ih hnext, harmed, Host.afterArming_append]
    rfl

/-- Taking over some records puts them into the table and arms a timer for each of their entries. -/
lemma foldl_adopt_eq (hworks : a.host.timers.failing = false) (records : List (String × Record)) :
    records.foldl (fun a entry => a.adopt entry.1 entry.2) a
      = { a with
          table := records.foldl (fun table entry => Table.insert table entry.1 entry.2) a.table
          host := a.host.afterArming
            (records.flatMap (fun entry => entry.2.expiries a.host.now)) } := by
  induction records generalizing a with
  | nil => simp [Host.afterArming, TimerSource.afterArming]
  | cons entry records ih =>
    have hadopted : a.adopt entry.1 entry.2
        = { a with
            table := Table.insert a.table entry.1 entry.2
            host := a.host.afterArming (entry.2.expiries a.host.now) } := by
      rw [adopt, armExpiries_eq hworks]
    have hnext : (a.adopt entry.1 entry.2).host.timers.failing = false := by
      rw [hadopted]
      exact hworks
    rw [List.foldl_cons, ih hnext, hadopted, List.flatMap_cons, ← Host.afterArming_append]
    rfl

/-- With running processes and a stored document, recovery takes over what is to be recovered, saves
the table, and puts on record how many members it took and how many it dropped. -/
lemma recover_loaded (hrunning : running ≠ [])
    (hload : a.host.store.load recordsDocument = .ok (some document)) :
    ∃ dropped, (a.recovered (some running)).length + dropped = document.memberCount ∧
      a.recover (some running) =
        let taken :=
          ((a.recovered (some running)).foldl (fun a entry => a.adopt entry.1 entry.2) a).persist
        let event := AuditEvent.recordsRecovered (a.recovered (some running)).length dropped
        { taken with host := taken.host.audit event } := by
  obtain ⟨process, processes, rfl⟩ := List.exists_cons_of_ne_nil hrunning
  have hkept : a.recovered (some (process :: processes)) = (storedRecords document).1.filter
      (fun entry => Processes.name? (process :: processes) entry.2.pid = some entry.2.name) := by
    simp only [recovered, hload]
  refine ⟨(storedRecords document).2
    + ((storedRecords document).1.length - (a.recovered (some (process :: processes))).length),
    ?_, ?_⟩
  · have hmost : (a.recovered (some (process :: processes))).length
        ≤ (storedRecords document).1.length := by
      rw [hkept]
      exact List.length_filter_le _ _
    have hall := storedRecords_length document
    omega
  · simp only [recover, hload, hkept]
    rfl

/-- What is taken over from an ordered document is in order. -/
lemma recovered_pairwise (hload : a.host.store.load recordsDocument = .ok (some document))
    (hordered : document.Ordered) :
    (a.recovered (some running)).Pairwise (fun x y => x.1 < y.1) := by
  cases running with
  | nil => exact List.Pairwise.nil
  | cons process processes =>
    simp only [recovered, hload]
    exact (storedRecords_pairwise hordered).filter _

/-- A table that was empty consists of what was taken over. -/
lemma entries_recover (hempty : a.table = Table.empty)
    (hload : a.host.store.load recordsDocument = .ok (some document))
    (hordered : document.Ordered) :
    (a.recover (some running)).table.entries = a.recovered (some running) := by
  rw [table_recover, hempty]
  exact Table.entries_foldl_insert Table.empty (recovered_pairwise hload hordered)

/-- Without any running process, or without a document that can be loaded, nothing happens. -/
lemma recover_of_nothing {running : Option Processes} (h : running = none ∨ running = some [] ∨
    ∀ document, a.host.store.load recordsDocument ≠ .ok (some document)) :
    a.recover running = a := by
  rcases h with rfl | rfl | hnone
  · rfl
  · rfl
  · unfold recover
    split
    · rfl
    · rfl
    · split
      case h_1 document hload => exact absurd hload (hnone document)
      case h_2 => rfl

/-- From `a` to `after` the table was recovered from a document, while some processes were
running. -/
structure Recovers (running : Processes) (document : Value) (a after : Admission) : Prop where
  /-- In the table is what the members of the document tell of running processes, if the mask is
  that of the entries and not empty. -/
  table : ∀ key record, after.table.get? key = some record ↔
    ∃ members value, document = .record members ∧ (key, value) ∈ members ∧
      Record.ofValue? value = some record ∧ record.mask ≠ 0 ∧
      record.mask.toNat = record.entries.foldl (fun mask entry =>
        mask ||| if entry.index ≤ 31 then 2 ^ entry.index else 0) 0 ∧
      running.name? record.pid = some record.name
  /-- One timer was armed for each entry, record after record. -/
  timers : after.host.timers = a.host.timers.afterArming
    (after.table.values.flatMap (fun record => record.entries.map (fun entry =>
      (max 0 (entry.timeLeft a.host.now),
        .revokeExpired record.uid record.name Mask.known))))
  /-- The members that were taken and all others were counted. -/
  events : ∃ dropped, after.table.size + dropped = document.memberCount ∧
    after.host.store.events = a.host.store.events ++ (if a.host.store.failAudit then []
      else [.recordsRecovered after.table.size dropped])
  saves : after.host.store.saves = a.host.store.saves + 1
  documents : after.host.store.documents =
    if a.host.store.failSave then a.host.store.documents
    else a.host.store.documents.insert recordsDocument (some after.table.toValue)
  queue : after.host.queue = a.host.queue
  wakeLock : after.host.wakeLock = a.host.wakeLock
  policy : after.policy = a.policy

/-- A stored record is consistent if its mask, as a number, is that of its entries. -/
lemma isConsistent_iff_toNat {record : Record} : record.isConsistent = true ↔ record.mask ≠ 0 ∧
    record.mask.toNat = record.entries.foldl (fun mask entry =>
      mask ||| if entry.index ≤ 31 then 2 ^ entry.index else 0) 0 := by
  rw [Record.isConsistent, Bool.and_eq_true, bne_iff_ne, beq_iff_eq, ← toNat_entriesMask,
    Record.entriesMask, ← BitVec.toNat_inj]

/-- What recovery into an empty table makes of the host. -/
lemma host_recover (hempty : a.table = Table.empty) (hworks : a.host.timers.failing = false)
    (hrunning : running ≠ []) (hload : a.host.store.load recordsDocument = .ok (some document))
    (hordered : document.Ordered) :
    ∃ dropped, (a.recover (some running)).table.size + dropped = document.memberCount ∧
      (a.recover (some running)).policy = a.policy ∧
      (a.recover (some running)).host =
        ((a.host.afterArming ((a.recover (some running)).table.values.flatMap
            (Record.expiries a.host.now))).save recordsDocument
          (a.recover (some running)).table.toValue).audit
        (.recordsRecovered (a.recover (some running)).table.size dropped) := by
  have hentries : (a.recover (some running)).table.entries = a.recovered (some running) :=
    entries_recover hempty hload hordered
  obtain ⟨dropped, hcount, hrecover⟩ := recover_loaded hrunning hload
  have hsize : (a.recover (some running)).table.size = (a.recovered (some running)).length :=
    congrArg List.length hentries
  have hvalues : (a.recover (some running)).table.values.flatMap (Record.expiries a.host.now)
      = (a.recovered (some running)).flatMap (fun entry => entry.2.expiries a.host.now) := by
    rw [Table.values, hentries, List.flatMap_map]
  refine ⟨dropped, by rw [hsize, hcount], ?_, ?_⟩
  · rw [hrecover, foldl_adopt_eq hworks]
    rfl
  · rw [hsize, hvalues, table_recover, hrecover, foldl_adopt_eq hworks]
    rfl

/-- Recovery into an empty table recovers it from the document. -/
lemma recovers (hempty : a.table = Table.empty) (hworks : a.host.timers.failing = false)
    (hrunning : running ≠ []) (hload : a.host.store.load recordsDocument = .ok (some document))
    (hordered : document.Ordered) : Recovers running document a (a.recover (some running)) := by
  obtain ⟨dropped, hcount, hpolicy, hhost⟩ :=
    host_recover hempty hworks hrunning hload hordered
  refine ⟨?_, ?_, ⟨dropped, hcount, ?_⟩, ?_, ?_, ?_, ?_, hpolicy⟩
  · intro key record
    rw [← Table.mem_entries, entries_recover hempty hload hordered, mem_recovered_iff,
      isConsistent_iff_toNat]
    constructor
    · rintro ⟨processes, found, hprocesses, hfound, ⟨members, hmembers, value, hvalue, hread⟩,
        ⟨hfull, hmask⟩, hname⟩
      obtain rfl := Option.some.inj hprocesses
      obtain rfl : document = found := by simpa [hload] using hfound
      exact ⟨members, value, hmembers, hvalue, hread, hfull, hmask, hname⟩
    · rintro ⟨members, value, hmembers, hvalue, hread, hfull, hmask, hname⟩
      exact ⟨running, document, rfl, hload, ⟨members, hmembers, value, hvalue, hread⟩,
        ⟨hfull, hmask⟩, hname⟩
  · rw [hhost]
    rfl
  · rw [hhost, Host.audit_events, Host.save_failAudit, Store.events, Host.save_trail]
    rfl
  · rw [hhost, Host.audit_saves, Host.save_saves]
    rfl
  · rw [hhost, Host.audit_documents, Host.save_documents, RecordTable.stored_toValue]
    rfl
  · rw [hhost]
    rfl
  · rw [hhost]
    rfl

end Admission

/-- Recovery into an empty table, by a service that can arm timers, takes exactly those members of
the stored document that read as records, whose masks are not empty and the union of the bits of
their entries, and whose processes are running under the same numbers and names; each stands under
the name that it has in the document.  For every entry a timer is armed, for the time that is left;
if the end is in reach of the clock, that is until it ends, or none.  The members that were taken and
the others are counted, and the table is saved.

If no process is known to be running, or there is no document, or it cannot be loaded, recovery
changes nothing at all. -/
theorem recovery_takes_what_is_consistent_and_running (a : Admission)
    (hempty : a.table = Table.empty) (hworks : a.host.timers.failing = false) :
    (∀ (running : Processes) (document : Value), running ≠ [] →
      a.host.store.load recordsDocument = .ok (some document) → document.Ordered →
      Admission.Recovers running document a (a.recover (some running)) ∧
      (∀ record ∈ (a.recover (some running)).table.values, ∀ entry ∈ record.entries,
        entry.InReach a.host.now →
          max 0 (entry.timeLeft a.host.now) = max 0 (entry.endTime - a.host.now) ∧
          a.host.now + wrap64 (max 0 (entry.timeLeft a.host.now))
            = max entry.endTime a.host.now)) ∧
    ∀ running : Option Processes, (running = none ∨ running = some [] ∨
        ∀ document, a.host.store.load recordsDocument ≠ .ok (some document)) →
      a.recover running = a := by
  constructor
  · intro running document hrunning hload hordered
    refine ⟨Admission.recovers hempty hworks hrunning hload hordered, ?_⟩
    intro record hrecord entry hentry hreach
    rw [entry.wrap64_timeLeft]
    exact ⟨by rw [hreach.timeLeft_eq], hreach.due_eq⟩
  · intro running hnothing
    exact Admission.recover_of_nothing hnothing

/-! ## An example -/

/-- A stored table of which two members can be taken when `mail` runs: the mask of another record is
not that of its entries, that of a third is empty, one process is gone, and one member is no record
at all. -/
def mixedDocument : Value := .record [
  ("10001_mail", (mailRecord 10001 18 [⟨4, 600000, "sync"⟩, ⟨1, 60000, "sync"⟩]).toValue),
  ("10002_mail", (mailRecord 10002 6 [⟨1, 60000, "sync"⟩]).toValue),
  ("10003_mail", (mailRecord 10003 0 []).toValue),
  ("10004_mail", ({ mailRecord 10004 2 [⟨1, 60000, "sync"⟩] with pid := 78 }).toValue),
  ("note", .text "nothing"),
  ("stray", (mailRecord 8 2 [⟨33, 70000, "sync"⟩, ⟨1, 90000, "sync"⟩]).toValue)]

/-- An empty exemption table 61 seconds after the start; the store has the mixed document. -/
def Admission.forMixed : Admission :=
  { Admission.forMail with
    host := { ({} : Host).save recordsDocument mixedDocument with timers := { now := 61000 } } }

/-- Two members are taken and four dropped; what has ended meanwhile is due at once. -/
theorem recovery_takes_what_is_consistent_and_running_for_mail :
    let a := Admission.forMixed
    let running : Processes := [(77, "mail"), (78, "clock")]
    let after := a.recover (some running)
    let task := fun uid => TimerTask.revokeExpired uid "mail" Mask.known
    Admission.Recovers running mixedDocument.canonical.restored a after ∧
      after.table.entries.map (fun entry => (entry.1, entry.2.uid)) =
        [("10001_mail", 10001), ("stray", 8)] ∧
      after.host.timers.pending = [⟨1, 600000, task 10001⟩, ⟨2, 61000, task 10001⟩,
        ⟨3, 70000, task 8⟩, ⟨4, 90000, task 8⟩] ∧
      after.host.store.events = [.recordsRecovered 2 4] ∧
      a.recover (some []) = a := by
  intro a running after task
  obtain ⟨hall, hnothing⟩ := recovery_takes_what_is_consistent_and_running a rfl rfl
  have hload : a.host.store.load recordsDocument = .ok (some mixedDocument.canonical.restored) := by
    rfl
  obtain ⟨hrecovers, -⟩ := hall running _ (by decide) hload (Value.ordered_stored mixedDocument)
  refine ⟨hrecovers, by decide +kernel, ?_, by decide +kernel, hnothing _ (Or.inr (Or.inl rfl))⟩
  rw [hrecovers.timers]
  decide +kernel

/-- A store, a millisecond after the clock began, that says of the exemption of `mail` from the
network that it ended as long before as 64 bits can tell. -/
def Admission.forLongEndedStored : Admission :=
  let document := Value.record
    [("10001_mail", (mailRecord 10001 2 [⟨1, Width.int64.least, "sync"⟩]).toValue)]
  { Admission.forMail with
    host := { ({} : Host).save recordsDocument document with timers := { now := 1 } } }

/-- That exemption is recovered with a timer for the greatest time there is, although no time is left
of it.  And when the trail takes nothing, what recovery took and dropped is not put on record. -/
theorem long_ended_exemption_is_recovered_for_long :
    let a := Admission.forLongEndedStored
    let after := a.recover (some [(77, "mail")])
    let b := { Admission.forMixed with host := Admission.forMixed.host.setFailing .audit true }
    let unrecorded := b.recover (some [(77, "mail"), (78, "clock")])
    (after.record? 10001 "mail" = some (mailRecord 10001 2 [⟨1, Width.int64.least, "sync"⟩]) ∧
      max 0 (Width.int64.least - a.host.now) = 0 ∧
      after.host.timers = a.host.timers.afterArming
        [(Width.int64.greatest, .revokeExpired 10001 "mail" Mask.known)]) ∧
    unrecorded.table.size = 2 ∧ unrecorded.host.store.events = b.host.store.events := by
  intro a after b unrecorded
  refine ⟨⟨?_, ?_, ?_⟩, ?_, ?_⟩
  all_goals decide +kernel

end DeviceStandby
