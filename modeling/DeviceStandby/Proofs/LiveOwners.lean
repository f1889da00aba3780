import DeviceStandby.Proofs.EngineMachine

/-!
# Whose exemptions there are after a start

Recovery drops the stored records whose processes are gone.  It does not look at the records that
the table has already: an engine keeps its table when it is stopped, and the next start puts the
recovered records into it.  So after a start all owners live exactly if every owner in the table did
before, or had a record recovered in its place (`owners_live_after_start_iff`).  A new engine has an
empty table, and there they always do.
-/

namespace DeviceStandby

/-- The process that was granted something last runs under the owner's name. -/
def Record.Lives (record : Record) (running : Processes) : Prop :=
  running.name? record.pid = some record.name

/-- All owners in the table live. -/
def RecordTable.OwnersLive (table : RecordTable) (running : Processes) : Prop :=
  ∀ key record, table.get? key = some record → record.Lives running

namespace Engine

variable {e : Engine}

/-- Bringing the roles up touches neither the table nor the store. -/
lemma rise_keeps (e : Engine) : e.rise.2.table = e.table ∧ e.rise.2.host.store = e.host.store := by
  refine rise_induct (P := fun next => next.table = e.table ∧ next.host.store = e.host.store)
    ?_ ?_ ?_ ?_ ⟨rfl, rfl⟩
  · rintro next call ⟨htable, hstore⟩
    obtain ⟨probe, hprobe⟩ := note_eq next call
    rw [hprobe]
    exact ⟨htable, hstore⟩
  · rintro next ⟨htable, hstore⟩
    refine ⟨htable, ?_⟩
    rw [drive_eq, Rig.init, ← hstore]
    exact Rig.cancelTimers_store _
  · rintro next strategies listener h
    exact h
  · rintro next ⟨htable, hstore⟩
    refine ⟨htable, ?_⟩
    simpa [armDayNight] using hstore

/-- A start that succeeds has brought all roles up. -/
lemma rise_of_init (hready : e.ready = false) {running : Option Processes}
    (h : (e.init running).1 = .ok ()) : e.rise.1 = true := by
  unfold init at h
  unfold rise
  rw [if_neg (by simp [hready])] at h
  rcases hfirst : e.bringUp .stateInit (fun e => e.drive Rig.init) with ⟨_ | _, first⟩
  · simp [hfirst] at h
  · rw [hfirst] at h
    dsimp only at h ⊢
    rcases hlater : bringUpAll laterRoles first with ⟨_ | _, later⟩
    · simp [hlater] at h
    · rfl

/-- After a start that succeeds, the table has what it had before and what was recovered. -/
lemma table_init (hready : e.ready = false) {running : Option Processes}
    (h : (e.init running).1 = .ok ()) : (e.init running).2.table =
      (e.toAdmission.recovered running).foldl
        (fun table entry => Table.insert table entry.1 entry.2) e.table := by
  have hrisen : e.rise = (true, e.rise.2) := Prod.ext (rise_of_init hready h) rfl
  obtain ⟨htable, hstore⟩ := e.rise_keeps
  have hrecovered : e.rise.2.toAdmission.recovered running = e.toAdmission.recovered running := by
    unfold Admission.recovered
    rw [hstore]
  rw [init_state, if_neg (by simp [hready]), hrisen, ← hrecovered, ← htable]
  exact e.rise.2.toAdmission.table_recover running

end Engine

/-- After a start that succeeds, all owners in the table live exactly if every owner that the table
had before lives, or had a record recovered in its place. -/
theorem owners_live_after_start_iff (e : Engine) (running : Processes) (hready : e.ready = false)
    (hstarted : (e.init (some running)).1 = .ok ()) :
    RecordTable.OwnersLive (e.init (some running)).2.table running ↔
      ∀ key record, e.table.get? key = some record →
        record.Lives running ∨ ∃ taken, (key, taken) ∈ e.toAdmission.recovered (some running) := by
  have htable := Engine.table_init hready hstarted
  constructor
  · intro hlive key record hget
    by_cases hreplaced : ∃ taken, (key, taken) ∈ e.toAdmission.recovered (some running)
    · exact Or.inr hreplaced
    · have hother : ∀ entry ∈ e.toAdmission.recovered (some running), entry.1 ≠ key := by
        rintro ⟨name, taken⟩ hmem rfl
        exact hreplaced ⟨taken, hmem⟩
      refine Or.inl (hlive key record ?_)
      rw [htable, Admission.get?_foldl_insert_of_ne hother, hget]
  · intro hbefore key record hget
    rw [htable] at hget
    rcases Admission.get?_foldl_insert hget with hmem | ⟨hother, hold⟩
    · obtain ⟨processes, _, hrunning, -, -, -, hname⟩ := Admission.mem_recovered_iff.1 hmem
      obtain rfl := Option.some.inj hrunning
      exact hname
    · rcases hbefore key record hold with hlives | ⟨taken, hmem⟩
      · exact hlives
      · exact absurd rfl (hother _ hmem)

/-- An engine that was stopped when `mail` was allowed scheduled work. -/
def Engine.stoppedForMail : Engine :=
  (((Engine.forMail {}).init (some [(77, "mail")])).2.act (.operate (.grant mailRequest 77))).act
    .uninit

/-- If `mail` still runs when the engine is started again, all owners live. -/
theorem owners_live_after_start_for_mail :
    let e := Engine.stoppedForMail
    e.table.keys = ["10001_mail"] ∧
      RecordTable.OwnersLive (e.init (some [(77, "mail")])).2.table [(77, "mail")] := by
  intro e
  refine ⟨by decide +kernel, ?_⟩
  refine (owners_live_after_start_iff e _ (by rfl) (by rfl)).2 ?_
  have hlive : ∀ record ∈ e.table.values,
      Processes.name? [(77, "mail")] record.pid = some record.name := by decide +kernel
  exact fun key record hget => Or.inl (hlive record (Table.mem_values.2 ⟨key, hget⟩))

/-- If it has ended by then, its record is put down as dropped, but it is still in the table, and is
stored again. -/
theorem dead_owner_stays_after_start :
    let e := Engine.stoppedForMail
    let restarted := (e.init (some [(1, "init")])).2
    (e.init (some [(1, "init")])).1 = .ok () ∧
      e.toAdmission.document? = some (some e.table.toValue) ∧
      AuditEvent.recordsRecovered 0 1 ∈ restarted.host.store.events ∧
      restarted.toAdmission.document? = some (some e.table.toValue) ∧
      ¬ RecordTable.OwnersLive restarted.table [(1, "init")] := by
  intro e restarted
  refine ⟨by rfl, by decide +kernel, by decide +kernel, by decide +kernel, ?_⟩
  intro hlive
  have hgone : ∃ record ∈ restarted.table.values,
      Processes.name? [(1, "init")] record.pid ≠ some record.name := by decide +kernel
  obtain ⟨record, hmem, hname⟩ := hgone
  obtain ⟨key, hget⟩ := Table.mem_values.1 hmem
  exact hname (hlive key record hget)

end DeviceStandby
