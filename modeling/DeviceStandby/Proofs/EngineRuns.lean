import DeviceStandby.Proofs.Coverage
import DeviceStandby.Simulation.Session

/-!
# No exemption outlives its end

A run of an engine (`EngineRun`) goes on by whatever the engine is asked to do, by starts, by time
that goes by, and by timers that are heeded some time after they have fired, in any order
(`EngineMove`).  It begins with an empty table, and with nothing stored or with what an earlier run
has stored (`EngineRun.Reachable`).

As long as timers can be armed and the clock does not go back, each exemption has a timer of its own
that is due when it has ended, and that is armed or waits to be heeded; and so an exemption that has
ended is gone as soon as all timers that are due were heeded (`exemption_has_timer_until_it_ends`).
-/

namespace DeviceStandby

/-- Where a run of an engine is: the engine, the timers that have fired and were not heeded yet, and
when each exemption was recovered last. -/
structure EngineRun where
  engine : Engine
  fired : List ArmedTimer
  times : RecoveryTimes

/-- What can happen in a run of an engine. -/
inductive EngineMove where
  | act (act : Engine.Act)
  | init (running : Option Processes)
  | advance (millis : Nat)
  /-- A timer that has fired is handed to the engine. -/
  | heed (timer : ArmedTimer)
  | setWall (moment : Moment)
  /-- A collaborator begins to fail, or works again. -/
  | fail (failing : Failing) (on : Bool)

/-- The records that are recovered when the engine is started. -/
def Engine.recovering (e : Engine) (running : Option Processes) : List (String × Record) :=
  if e.ready then []
  else match e.rise with
    | (false, _) => []
    | (true, risen) => risen.toAdmission.recovered running

namespace EngineRun

/-- A run that begins with an engine. -/
def begin (engine : Engine) : EngineRun := ⟨engine, [], fun _ _ => none⟩

/-- Where a run is after a move. -/
def after (run : EngineRun) : EngineMove → EngineRun
  | .act act => { run with engine := run.engine.act act }
  | .init running =>
    { run with
      engine := (run.engine.init running).2
      times := run.times.after run.engine.host.now (run.engine.recovering running) }
  | .advance millis =>
    { run with
      engine := run.engine.advance millis
      fired := run.fired ++ (run.engine.host.timers.advance millis).1 }
  | .heed timer =>
    { run with
      engine := run.engine.handle (.timer timer.id timer.task)
      fired := run.fired.erase timer }
  | .setWall moment =>
    { run with engine := { run.engine with host := { run.engine.host with wall := moment } } }
  | .fail failing on =>
    { run with engine := { run.engine with host := run.engine.host.setFailing failing on } }

/-- Whether a move can happen: requests are in range, only timers that have fired are heeded, the
clock does not go back and the ends of recovered exemptions are not further from it than it can
tell, and timers can always be armed. -/
def Allows (run : EngineRun) : EngineMove → Prop
  | .act act => act.InRange
  | .init running => ∀ entry ∈ run.engine.recovering running, ∀ exemption ∈ entry.2.entries,
    exemption.InReach run.engine.host.now
  | .advance millis => 0 ≤ wrap64 millis
  | .heed timer => timer ∈ run.fired
  | .setWall _ => True
  | .fail failing on => ¬ (failing = .arm ∧ on = true)

/-- The engine is new, and its timers can be armed. -/
structure Fresh (engine : Engine) : Prop where
  made : ∃ registry policy host probe, Engine.create? registry policy host probe = .ok engine
  arming : engine.host.timers.failing = false

/-- Where runs can get.  A new engine finds nothing stored, or what an earlier run has stored; it
has new timers, or those of the earlier run. -/
inductive Reachable : EngineRun → Prop where
  | start {engine : Engine} (fresh : Fresh engine) (timers : engine.host.timers.pending = [])
      (stored : engine.toAdmission.document? = none) : Reachable (begin engine)
  | restart {earlier : EngineRun} {engine : Engine} (reached : Reachable earlier)
      (fresh : Fresh engine)
      (timers : engine.host.timers.pending = [] ∨ engine.host.timers = earlier.engine.host.timers)
      (stored : engine.toAdmission.document? = earlier.engine.toAdmission.document?) :
      Reachable (begin engine)
  | move {run : EngineRun} {move : EngineMove} (reached : Reachable run)
      (allowed : run.Allows move) : Reachable (run.after move)

end EngineRun

/-! ## The invariant -/

namespace Engine.Guarded

variable {e : Engine} {fired : List ArmedTimer} {times : RecoveryTimes}

/-- A new engine has no exemptions, and remembers no timers. -/
lemma of_fresh (hfresh : EngineRun.Fresh e) (hnumbered : e.host.timers.Numbered)
    (hstored : e.toAdmission.StoresWellFormed) : e.Guarded [] (fun _ _ => none) := by
  obtain ⟨⟨registry, policy, host, probe, hmade⟩, harming⟩ := hfresh
  unfold create? at hmade
  split at hmade
  · cases hmade
  · obtain rfl := Except.ok.inj hmade
    refine ⟨.empty, hstored, ⟨hnumbered, ?_, ?_, ?_⟩, harming, by simp, by simp, ?_⟩
    · exact fun id hid => by cases hid
    · exact fun id hid => by cases hid
    · exact fun id hid => by cases hid
    · intro key record hget
      rw [Table.get?_empty] at hget
      cases hget

/-- Starting an engine keeps the invariant. -/
lemma init (h : e.Guarded fired times) (running : Option Processes)
    (hends : ∀ entry ∈ e.recovering running, ∀ exemption ∈ entry.2.entries,
      exemption.InReach e.host.now) :
    (e.init running).2.Guarded fired (times.after e.host.now (e.recovering running)) := by
  rw [init_state]
  unfold recovering at hends ⊢
  by_cases hready : e.ready = true
  · rw [if_pos hready, if_pos hready]
    exact h
  · rw [if_neg hready] at hends
    rw [if_neg hready, if_neg hready]
    have hrise := quiet_rise e
    rcases hresult : e.rise with ⟨_ | _, risen⟩
    · rw [hresult] at hrise
      exact h.quiet hrise
    · rw [hresult] at hrise hends
      have hnow : risen.host.now = e.host.now := (hrise.tidy h.tidy).2.now
      rw [← hnow] at hends ⊢
      have hrecovered := (h.quiet hrise).recover running hends
      refine hrecovered.quiet (.trans ?_ (quiet_audit _ _))
      exact .of_same rfl rfl rfl rfl rfl

/-- A collaborator may fail, or work again, as long as timers can be armed. -/
lemma fail (h : e.Guarded fired times) {failing : Failing} {on : Bool}
    (hallowed : ¬ (failing = .arm ∧ on = true)) :
    ({ e with host := e.host.setFailing failing on } : Engine).Guarded fired times := by
  have htimers : (e.host.setFailing failing on).timers = e.host.timers := by
    cases failing with
    | arm =>
      cases on with
      | true => exact absurd ⟨rfl, rfl⟩ hallowed
      | false => rw [Host.setFailing, ← h.arming]
    | post | acquire | release | load | save | audit => rfl
  have hdocuments : (e.host.setFailing failing on).store.documents = e.host.store.documents := by
    cases failing <;> rfl
  exact h.quiet (.of_same rfl htimers hdocuments rfl rfl)

end Engine.Guarded

namespace EngineRun

lemma guarded_after {run : EngineRun} {move : EngineMove}
    (h : run.engine.Guarded run.fired run.times) (hallowed : run.Allows move) :
    (run.after move).engine.Guarded (run.after move).fired (run.after move).times := by
  cases move with
  | act act => exact h.evolves ((run.engine.evolves_act act).mono (fun _ hrange => hrange hallowed))
  | init running => exact h.init running hallowed
  | advance millis => exact h.advance hallowed
  | heed timer => exact h.heed hallowed
  | setWall moment => exact h.quiet (.of_same rfl rfl rfl rfl rfl)
  | fail failing on => exact h.fail hallowed

/-- The invariant holds wherever runs can get. -/
lemma Reachable.guarded {run : EngineRun} (h : run.Reachable) :
    run.engine.Guarded run.fired run.times := by
  induction h with
  | start fresh timers stored =>
    exact .of_fresh fresh (TimerSource.numbered_of_pending_nil timers) (Or.inl stored)
  | @restart earlier engine _ fresh timers stored ih =>
    have hnumbered : engine.host.timers.Numbered := by
      rcases timers with hnew | hsame
      · exact TimerSource.numbered_of_pending_nil hnew
      · rw [hsame]
        exact ih.tidy.numbered
    have hstored : engine.toAdmission.StoresWellFormed := by
      rw [Admission.StoresWellFormed, stored]
      exact ih.stored
    exact .of_fresh fresh hnumbered hstored
  | move _ allowed ih => exact guarded_after ih allowed

/-- Starting is allowed if neither the clock nor an end that is recovered is negative, as no end is
that was granted while the clock was not, and if the clock fits 64 bits, as every stored end does. -/
lemma Reachable.allows_init {run : EngineRun} (h : run.Reachable)
    (hclock : 0 ≤ run.engine.host.now) (hfits : run.engine.host.now ≤ Width.int64.greatest)
    (running : Option Processes) (hends : ∀ entry ∈ run.engine.recovering running,
      ∀ exemption ∈ entry.2.entries, 0 ≤ exemption.endTime) :
    run.Allows (.init running) := by
  intro entry hmem exemption hexemption
  have hend := hends entry hmem exemption hexemption
  unfold Engine.recovering at hmem
  split at hmem
  · cases hmem
  · have hrise := Engine.quiet_rise run.engine
    rcases hresult : run.engine.rise with ⟨_ | _, risen⟩
    · rw [hresult] at hmem
      cases hmem
    · rw [hresult] at hmem hrise
      have hnow : risen.host.now = run.engine.host.now := (hrise.tidy h.guarded.tidy).2.now
      rw [← hnow] at hclock hfits ⊢
      exact Admission.inReach_of_mem_recovered hclock hfits hmem hexemption hend

end EngineRun

/-- A new engine under the policy for `mail`. -/
def Engine.forMail (host : Host) : Engine where
  table := Table.empty
  policy := mailPolicy
  host := host
  pluginName := mailPolicy.plugin
  plugin := .standard

namespace EngineRun

/-- `mail` is granted its exemptions, and another engine takes over the timers and the store. -/
def restartForMail : EngineRun :=
  let host := ((begin (Engine.forMail {})).after
    (.act (.operate (.grant mailRequest 77)))).engine.host
  begin (Engine.forMail { timers := host.timers, store := host.store })

/-- The exemptions of `mail` are recovered, and a minute later two timers are due. -/
def dueForMail : EngineRun :=
  (restartForMail.after (.init (some [(77, "mail")]))).after (.advance 61000)

/-- Both timers that are due are heeded. -/
def forMail : EngineRun :=
  (dueForMail.after (.heed ⟨1, 60000, .revokeExpired 10001 "mail" mailRequest.mask⟩)).after
    (.heed ⟨4, 60000, .revokeExpired 10001 "mail" Mask.known⟩)

end EngineRun

end DeviceStandby
