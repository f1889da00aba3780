import DeviceStandby.Proofs.TableInvariant

/-!
# Caps of the policy cannot be accumulated

The policy limits how long an exemption of a name may last from now on.  A request may be repeated
at any time, and prolonging keeps the later of two ends, but neither takes the end of an exemption
any further: it was within the limit when it was granted, and the limit has only moved forward since
then.

`Record.Capped` is the invariant, for one name and one kind; it says that the record is sound too,
since it is sound records of which `Admission.perform_holds` tells what operations leave.  Each move
keeps it that does not turn back the clock or lift the limit (`Admission.move_capped`), and so does
every run (`Admission.run_capped`).  Scheduled work is not limited by any policy, so it is left out.
-/

namespace DeviceStandby

/-! ## Caps -/

/-- By day and by night, for processes and for apps, the policy allows `name` an exemption of no
more than some seconds. -/
structure Policy.Caps (policy : Policy) (name : String) (kind : Resource) (seconds : Int) :
    Prop where
  byDay : ∀ isApp, policy.maxDuration name kind.name Condition.day isApp ≤ seconds
  byNight : ∀ isApp, policy.maxDuration name kind.name Condition.night isApp ≤ seconds

/-- No request gets more of a kind than the caps allow, whatever the time of day. -/
lemma Policy.Caps.grantedSecs_le {policy : Policy} {kind : Resource} {seconds : Int}
    {request : Request} (h : policy.Caps request.name kind seconds) (hkind : kind ≠ .workScheduler)
    (second : Nat) : policy.grantedSecs (policy.conditionAt second) request kind ≤ seconds := by
  have hallowed : policy.maxDuration request.name kind.name (policy.conditionAt second)
      request.reasonCode.isApp ≤ seconds := by
    unfold conditionAt
    by_cases hnight : policy.night.contains second = true
    · rw [if_pos hnight]
      exact h.byNight _
    · rw [if_neg hnight]
      exact h.byDay _
  rw [grantedSecs, if_neg hkind]
  omega

/-- The move neither turns back the clock nor puts a policy into force that lifts the cap. -/
def Move.KeepsCap (name : String) (kind : Resource) (seconds : Int) : Move → Prop
  | .advance millis => 0 ≤ wrap64 millis
  | .reload policy => policy.Caps name kind seconds
  | .operate _ | .setWall _ | .fail _ _ => True

/-! ## Capped records -/

/-- The record is sound, and if its owner is called `name`, then no exemption from the kind ends
later than some seconds from now; without any seconds there is none. -/
structure Record.Capped (name : String) (kind : Resource) (seconds now : Int) (record : Record) :
    Prop extends Record.Sound record where
  within : record.name = name → ∀ entry ∈ record.entries, entry.index = kind.index →
    0 < seconds ∧ entry.endTime ≤ now + 1000 * seconds

namespace Record.Capped

variable {name : String} {kind : Resource} {seconds now later : Int} {record : Record}

lemma keepOnly (h : record.Capped name kind seconds now) (keep : Entry → Bool) :
    (record.keepOnly keep).Capped name kind seconds now where
  toSound := h.toSound.keepOnly keep
  within := fun hname entry hmem => h.within hname entry (List.mem_of_mem_filter hmem)

/-- Time that goes by makes room. -/
lemma mono (h : record.Capped name kind seconds now) (hle : now ≤ later) :
    record.Capped name kind seconds later where
  toSound := h.toSound
  within := by
    intro hname entry hmem hindex
    have hend := h.within hname entry hmem hindex
    omega

end Record.Capped

/-! ## Moves -/

namespace Admission

variable {a : Admission} {name : String} {kind : Resource} {seconds : Int}

/-- What is granted ends within the cap, and what was there did before. -/
lemma recordAfter_capped (htable : a.table.Holds (Record.Capped name kind seconds a.host.now))
    (hcaps : a.policy.Caps name kind seconds) (hkind : kind ≠ .workScheduler) (request : Request)
    (mask : Mask) (pid : Pid) :
    (a.recordAfter request mask pid).Capped name kind seconds a.host.now where
  toSound := recordAfter_sound (htable.mono (fun _ hrecord => hrecord.toSound))
  within := by
    intro hname entry hentry hindex
    have howner := (recordBefore_spec (htable.mono (fun _ hrecord => hrecord.toSound))
      request pid).2.1
    rw [recordAfter_name] at hname
    rw [recordAfter_entries] at hentry
    rcases Record.mem_extendAll hentry with
      ⟨old, hold, hplace, hend⟩ | ⟨grant, hgrant, hplace, hend⟩
    · have hbefore := (htable _ _ (get?_of_mem_recordBefore hold)).2
      rw [← hend]
      exact hbefore.within hname old hold (hplace.trans hindex)
    · obtain ⟨-, hpositive, hmillis⟩ := Policy.mem_grants_iff.1 hgrant
      have hsame : grant.1 = kind := Resource.index_injective (hplace.trans hindex)
      have hlimit : a.policy.grantedSecs a.condition request grant.1 ≤ seconds := by
        rw [hsame]
        rw [← hname, howner] at hcaps
        exact hcaps.grantedSecs_le hkind _
      omega

lemma perform_capped (h : a.table.Holds (Record.Capped name kind seconds a.host.now))
    (hcaps : a.policy.Caps name kind seconds) (hkind : kind ≠ .workScheduler)
    (operation : Operation) :
    (a.perform operation).table.Holds (Record.Capped name kind seconds a.host.now) :=
  perform_holds (fun _ hrecord => hrecord.toSound) (fun _ keep hrecord _ => hrecord.keepOnly keep)
    operation (fun request pid mask _ _ _ _ => recordAfter_capped h hcaps hkind request mask pid) h

/-- Every move that keeps the cap keeps the records within it. -/
lemma move_capped (h : a.table.Holds (Record.Capped name kind seconds a.host.now))
    (hcaps : a.policy.Caps name kind seconds) (hkind : kind ≠ .workScheduler) {move : Move}
    (hmove : move.KeepsCap name kind seconds) :
    (a.move move).table.Holds (Record.Capped name kind seconds (a.move move).host.now) ∧
      (a.move move).policy.Caps name kind seconds := by
  cases move with
  | operate operation =>
    simp only [Admission.move, perform_now, perform_policy]
    exact ⟨perform_capped h hcaps hkind operation, hcaps⟩
  | advance millis =>
    have hforward : 0 ≤ wrap64 millis := hmove
    have hnow : (a.move (.advance millis)).host.now = a.host.now + wrap64 millis := rfl
    have hle : a.host.now ≤ (a.move (.advance millis)).host.now := by omega
    exact ⟨h.mono (fun _ hrecord => hrecord.mono hle), hcaps⟩
  | setWall => exact ⟨h, hcaps⟩
  | reload policy => exact ⟨h, hmove⟩
  | fail failing => cases failing <;> exact ⟨h, hcaps⟩

/-- Every run of such moves does. -/
lemma run_capped (h : a.table.Holds (Record.Capped name kind seconds a.host.now))
    (hcaps : a.policy.Caps name kind seconds) (hkind : kind ≠ .workScheduler) {moves : List Move}
    (hmoves : ∀ move ∈ moves, move.KeepsCap name kind seconds) :
    (a.run moves).table.Holds (Record.Capped name kind seconds (a.run moves).host.now) := by
  induction moves generalizing a with
  | nil => exact h
  | cons move moves ih =>
    obtain ⟨hnext, hkept⟩ := move_capped h hcaps hkind (hmoves move List.mem_cons_self)
    exact ih hnext hkept (fun other hmem => hmoves other (List.mem_cons_of_mem _ hmem))

end Admission

/-- If the policy in force never allows `name` more than some seconds of a kind, by day or by night,
then in no run that begins with an empty table, however often something is asked for, an exemption
from the kind in a record of that name ends later than so many seconds from now; and if that is no
second at all, there is none. -/
theorem policy_caps_do_not_accumulate (a : Admission) (moves : List Move) (name : String)
    (kind : Resource) (seconds : Int) (hkind : kind ≠ .workScheduler)
    (hempty : a.table = Table.empty) (hcaps : a.policy.Caps name kind seconds)
    (hmoves : ∀ move ∈ moves, move.KeepsCap name kind seconds) :
    ∀ key record, (a.run moves).table.get? key = some record → record.name = name →
      (∀ entry ∈ record.entries, entry.index = kind.index →
        entry.endTime ≤ (a.run moves).host.now + 1000 * seconds) ∧
      (seconds = 0 → ∀ entry ∈ record.entries, entry.index ≠ kind.index) := by
  have hstart : a.table.Holds (Record.Capped name kind seconds a.host.now) := by
    rw [hempty]
    exact .empty
  have hlast := Admission.run_capped hstart hcaps hkind hmoves
  intro key record hget hname
  have hwithin := (hlast key record hget).2.within hname
  refine ⟨fun entry hentry hindex => (hwithin entry hentry hindex).2, ?_⟩
  intro hnone entry hentry hindex
  have hpositive := (hwithin entry hentry hindex).1
  omega

/-- The app `mail` asks again for the network half a minute later, when it has become night: its
exemption then ends a minute later and not after what was left of the first one; and an exemption
from the freezing of processes, for which there is no cap but zero, it never gets. -/
theorem policy_caps_do_not_accumulate_for_mail :
    let request := { mailRequest with mask := Mask.known }
    let moves : List Move := [.operate (.grant request 77), .advance 30000,
      .setWall ⟨82800, 0⟩, .operate (.grant request 77)]
    let a := Admission.forMail.run moves
    (∃ record, a.table.get? "10001_mail" = some record ∧
      record.entries.map (fun entry => (entry.index, entry.endTime)) = [(1, 90000), (4, 630000)]) ∧
    (∀ key record, a.table.get? key = some record → record.name = "mail" →
      ∀ entry ∈ record.entries, entry.index = Resource.network.index →
        entry.endTime ≤ a.host.now + 1000 * 60) ∧
    ∀ key record, a.table.get? key = some record → record.name = "mail" →
      ∀ entry ∈ record.entries, entry.index ≠ Resource.freeze.index := by
  intro request moves a
  have hnetwork : mailPolicy.Caps "mail" .network 60 := ⟨by decide +kernel, by decide +kernel⟩
  have hfreeze : mailPolicy.Caps "mail" .freeze 0 := ⟨by decide +kernel, by decide +kernel⟩
  have hkeeps : ∀ kind seconds, ∀ move ∈ moves, move.KeepsCap "mail" kind seconds := by
    intro kind seconds move hmem
    simp only [moves, List.mem_cons, List.not_mem_nil, or_false] at hmem
    rcases hmem with rfl | rfl | rfl | rfl
    · trivial
    · show 0 ≤ wrap64 (30000 : Nat)
      decide
    · trivial
    · trivial
  refine ⟨?_, ?_, ?_⟩
  · decide +kernel
  · intro key record hget hname
    exact (policy_caps_do_not_accumulate Admission.forMail moves "mail" .network 60 (by decide) rfl
      hnetwork (hkeeps _ _) key record hget hname).1
  · intro key record hget hname
    exact (policy_caps_do_not_accumulate Admission.forMail moves "mail" .freeze 0 (by decide) rfl
      hfreeze (hkeeps _ _) key record hget hname).2 rfl

end DeviceStandby
