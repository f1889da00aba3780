import DeviceStandby.Exemption.Admission
import DeviceStandby.Proofs.HostFrames

/-!
# The timers that revoke exemptions

Of the timers of a source those that revoke exemptions are its `TimerSource.revokes`; all others
belong to the state machine or to the change between day and night.  `Host.Arms` says which timers
that revoke exemptions a step of the host arms, under new numbers, while the clock stands still.

A timer is armed for the time that is left of an exemption, and this is told in 64 bits.  As long as
the end is in reach of the clock (`Entry.InReach`) nothing is cut off.

A step is quiet (`Host.Quiet`) if it arms none, and leaves the stored exemption table as it is.
Arming another timer is quiet, and so is cancelling one whose number is `TimerSource.Foreign`: no
timer that revokes has this number, nor ever will, because numbers only grow.
-/

namespace DeviceStandby

/-- Whether a timer revokes exemptions. -/
def TimerTask.isRevoke : TimerTask → Bool
  | .revokeExpired _ _ _ => true
  | .transitNextState _ | .transitNextPhase _ | .dayNightSwitch => false

namespace TimerSource

/-- The armed timers that revoke exemptions. -/
def revokes (source : TimerSource) : List ArmedTimer :=
  source.pending.filter (fun timer => timer.task.isRevoke)

/-- No timer that revokes exemptions has the number, or will have it. -/
def Foreign (source : TimerSource) (id : TimerId) : Prop :=
  id < source.nextId ∧ ∀ timer ∈ source.revokes, timer.id ≠ id

/-- The timers that revoke exemptions have numbers that are not given again. -/
def Numbered (source : TimerSource) : Prop := ∀ timer ∈ source.revokes, timer.id < source.nextId

lemma mem_pending_of_mem_revokes {source : TimerSource} {timer : ArmedTimer}
    (h : timer ∈ source.revokes) : timer ∈ source.pending :=
  (List.mem_filter.1 h).1

lemma numbered_of_pending_nil {source : TimerSource} (h : source.pending = []) :
    source.Numbered := by
  intro timer hmem
  have hpending := mem_pending_of_mem_revokes hmem
  rw [h] at hpending
  cases hpending

end TimerSource

/-! ## Differences of times -/

/-- A number that fits 64 bits is not cut. -/
lemma wrap64_of_holds {number : Int} (h : Width.int64.holds number = true) :
    wrap64 number = number := by
  obtain ⟨hleast, hgreatest⟩ := Bool.and_eq_true_iff.1 h
  have hleast : -0x8000000000000000 ≤ number := of_decide_eq_true hleast
  have hgreatest : number ≤ 0x7FFFFFFFFFFFFFFF := of_decide_eq_true hgreatest
  exact Int.bmod_eq_of_le_mul_two (by omega) (by omega)

/-- A number that is not negative and fits 64 bits is not cut. -/
lemma wrap64_of_le {number : Int} (hleast : 0 ≤ number)
    (hgreatest : number ≤ Width.int64.greatest) : wrap64 number = number := by
  have hleast : Width.int64.least ≤ number := Int.le_trans (by decide) hleast
  exact wrap64_of_holds (Bool.and_eq_true_iff.2 ⟨decide_eq_true hleast, decide_eq_true hgreatest⟩)

namespace Entry

variable {entry : Entry} {now : Int}

/-- The exemption ends no further from a time, before or after it, than 64 bits can tell. -/
def InReach (entry : Entry) (now : Int) : Prop := Width.int64.holds (entry.endTime - now) = true

instance (entry : Entry) (now : Int) : Decidable (entry.InReach now) :=
  inferInstanceAs (Decidable (_ = true))

/-- The time that is left of an exemption in reach is not cut. -/
lemma InReach.timeLeft_eq (h : entry.InReach now) : entry.timeLeft now = entry.endTime - now :=
  wrap64_of_holds h

/-- The time that is left, or none, is not cut as the delay of a timer. -/
lemma wrap64_timeLeft (entry : Entry) (now : Int) :
    wrap64 (max 0 (entry.timeLeft now)) = max 0 (entry.timeLeft now) := by
  have hlt : entry.timeLeft now < 0x8000000000000000 := Int.bmod_lt (by decide)
  have hgreatest : Width.int64.greatest = 0x7FFFFFFFFFFFFFFF := rfl
  exact wrap64_of_le (Int.le_max_left _ _) (by omega)

/-- A timer for the time that is left is due at the end of an exemption in reach, or at once. -/
lemma InReach.due_eq (h : entry.InReach now) :
    now + max 0 (entry.timeLeft now) = max entry.endTime now := by
  rw [h.timeLeft_eq]
  omega

/-- Of an exemption in reach some time is left as long as it has not ended. -/
lemma InReach.timeLeft_pos_iff (h : entry.InReach now) :
    0 < entry.timeLeft now ↔ now < entry.endTime := by
  rw [h.timeLeft_eq]
  exact Int.sub_pos

/-- If neither the clock nor the end is negative, and both fit 64 bits, the end is in reach. -/
lemma inReach_of_nonneg (hnow : 0 ≤ now) (hclock : now ≤ Width.int64.greatest)
    (hend : 0 ≤ entry.endTime) (hfits : entry.endTime ≤ Width.int64.greatest) :
    entry.InReach now := by
  have hleast : Width.int64.least ≤ entry.endTime - now := by
    have hbound : Width.int64.least = -Width.int64.greatest - 1 := rfl
    omega
  have hgreatest : entry.endTime - now ≤ Width.int64.greatest := by omega
  exact Bool.and_eq_true_iff.2 ⟨decide_eq_true hleast, decide_eq_true hgreatest⟩

end Entry

/-! ## Arming timers -/

/-- From one host to the other, the clock has not moved, and of the timers that revoke exemptions
those in `more` were armed, under new numbers, and none is gone. -/
structure Host.Arms (before : Host) (more : List ArmedTimer) (after : Host) : Prop where
  now : after.now = before.now
  arming : after.timers.failing = before.timers.failing
  numbers : before.timers.nextId ≤ after.timers.nextId
  revokes : after.timers.revokes = before.timers.revokes ++ more
  fresh : ∀ timer ∈ more,
    before.timers.nextId ≤ timer.id ∧ timer.id < after.timers.nextId

namespace Host.Arms

variable {host next last : Host} {more others : List ArmedTimer}

lemma of_same (htimers : next.timers = host.timers) : Host.Arms host [] next where
  now := by rw [Host.now, Host.now, htimers]
  arming := by rw [htimers]
  numbers := Nat.le_of_eq (by rw [htimers])
  revokes := by rw [htimers, List.append_nil]
  fresh := by simp

lemma trans (first : Host.Arms host more next) (second : Host.Arms next others last) :
    Host.Arms host (more ++ others) last where
  now := second.now.trans first.now
  arming := second.arming.trans first.arming
  numbers := Nat.le_trans first.numbers second.numbers
  revokes := by rw [second.revokes, first.revokes, List.append_assoc]
  fresh := by
    intro timer hmem
    rcases List.mem_append.1 hmem with hmem | hmem
    · obtain ⟨hnew, hlast⟩ := first.fresh timer hmem
      exact ⟨hnew, Nat.lt_of_lt_of_le hlast second.numbers⟩
    · obtain ⟨hnew, hlast⟩ := second.fresh timer hmem
      exact ⟨Nat.le_trans first.numbers hnew, hlast⟩

lemma foreign (h : Host.Arms host more next) {id : TimerId} (hid : host.timers.Foreign id) :
    next.timers.Foreign id := by
  refine ⟨Nat.lt_of_lt_of_le hid.1 h.numbers, fun timer hmem => ?_⟩
  rw [h.revokes] at hmem
  rcases List.mem_append.1 hmem with hmem | hmem
  · exact hid.2 timer hmem
  · have hnew : id < timer.id := Nat.lt_of_lt_of_le hid.1 (h.fresh timer hmem).1
    exact Nat.ne_of_gt hnew

lemma numbered (h : Host.Arms host more next) (hnumbered : host.timers.Numbered) :
    next.timers.Numbered := by
  intro timer hmem
  rw [h.revokes] at hmem
  rcases List.mem_append.1 hmem with hmem | hmem
  · exact Nat.lt_of_lt_of_le (hnumbered timer hmem) h.numbers
  · exact (h.fresh timer hmem).2

/-- A working source arms what it is told to. -/
lemma arm (hworks : host.timers.failing = false) (delay : Nat) {task : TimerTask}
    (htask : task.isRevoke = true) : ∃ timer : ArmedTimer, timer.task = task ∧
      timer.due = host.now + wrap64 delay ∧ Host.Arms host [timer] (host.arm delay task).2 := by
  have harmed : (host.arm delay task).2.timers = { host.timers with
      nextId := host.timers.nextId + 1
      pending := host.timers.pending
        ++ [⟨host.timers.nextId, host.now + wrap64 delay, task⟩] } := by
    rw [Host.arm_timers, TimerSource.arm, TimerSource.armAt, if_neg (by simp [hworks])]
    rfl
  refine ⟨⟨host.timers.nextId, host.now + wrap64 delay, task⟩, rfl, rfl, host.arm_now delay task,
    ?_, ?_, ?_, ?_⟩
  · rw [harmed]
  · rw [harmed]
    exact Nat.le_succ _
  · rw [harmed]
    simp [TimerSource.revokes, htask]
  · rw [harmed]
    simp

/-- Arming one timer after the other, each after a delay that the clock may tell. -/
lemma foldl {α : Type} (delay : Int → α → Nat) (task : α → TimerTask)
    (htask : ∀ x, (task x).isRevoke = true) (hworks : host.timers.failing = false)
    (list : List α) : ∃ more, Host.Arms host more
        (list.foldl (fun host x => (host.arm (delay host.now x) (task x)).2) host) ∧
      ∀ x ∈ list, ∃ timer ∈ more, timer.task = task x ∧
        timer.due = host.now + wrap64 (delay host.now x) := by
  induction list generalizing host with
  | nil => exact ⟨[], of_same rfl, by simp⟩
  | cons x list ih =>
    obtain ⟨timer, htimer, hdue, harm⟩ := arm hworks (delay host.now x) (htask x)
    obtain ⟨more, hmore, hall⟩ := ih (harm.arming.trans hworks)
    refine ⟨timer :: more, harm.trans hmore, fun y hmem => ?_⟩
    rcases List.mem_cons.1 hmem with rfl | hmem
    · exact ⟨timer, List.mem_cons_self, htimer, hdue⟩
    · obtain ⟨other, hother, htask', hdue'⟩ := hall y hmem
      rw [harm.now] at hdue'
      exact ⟨other, List.mem_cons_of_mem _ hother, htask', hdue'⟩

end Host.Arms

/-! ## Quiet steps -/

/-- From one host to the other, the clock, the timers that revoke exemptions and the stored table
have not changed. -/
structure Host.Quiet (before after : Host) : Prop extends Host.Arms before [] after where
  stored : after.store.document? recordsDocument = before.store.document? recordsDocument

namespace Host.Quiet

variable {host next last : Host}

lemma refl (host : Host) : Host.Quiet host host := ⟨.of_same rfl, rfl⟩

lemma trans (first : Host.Quiet host next) (second : Host.Quiet next last) :
    Host.Quiet host last :=
  ⟨first.toArms.trans second.toArms, second.stored.trans first.stored⟩

lemma of_same (htimers : next.timers = host.timers)
    (hdocuments : next.store.documents = host.store.documents) : Host.Quiet host next := by
  refine ⟨.of_same htimers, ?_⟩
  rw [Store.document?, Store.document?, hdocuments]

lemma revokes_eq (h : Host.Quiet host next) : next.timers.revokes = host.timers.revokes := by
  rw [h.revokes, List.append_nil]

lemma foreign (h : Host.Quiet host next) {id : TimerId} (hid : host.timers.Foreign id) :
    next.timers.Foreign id := h.toArms.foreign hid

lemma numbered (h : Host.Quiet host next) (hnumbered : host.timers.Numbered) :
    next.timers.Numbered := h.toArms.numbered hnumbered

/-- Arming a timer that does not revoke exemptions is quiet. -/
lemma arm (host : Host) (delay : Nat) {task : TimerTask} (htask : task.isRevoke = false) :
    Host.Quiet host (host.arm delay task).2 := by
  refine ⟨⟨host.arm_now delay task, ?_, ?_, ?_, by simp⟩, rfl⟩
  all_goals
    rw [Host.arm_timers, TimerSource.arm, TimerSource.armAt]
    split
  · rfl
  · rfl
  · exact Nat.le_refl _
  · exact Nat.le_succ _
  · simp
  · simp [TimerSource.revokes, htask]

/-- The number of a new timer that does not revoke exemptions is foreign. -/
lemma foreign_arm {delay : Nat} {task : TimerTask} {id : TimerId} (htask : task.isRevoke = false)
    (hnumbered : host.timers.Numbered) (hid : (host.arm delay task).1 = some id) :
    (host.arm delay task).2.timers.Foreign id := by
  have hquiet := arm host delay htask
  change (host.timers.armAt _ task).1 = some id at hid
  rw [TimerSource.armAt] at hid
  split at hid
  case isTrue => cases hid
  case isFalse hworks =>
    obtain rfl : host.timers.nextId = id := Option.some.inj hid
    constructor
    · rw [Host.arm_timers, TimerSource.arm, TimerSource.armAt, if_neg hworks]
      exact Nat.lt_succ_self _
    · rw [hquiet.revokes_eq]
      exact fun timer hmem => Nat.ne_of_lt (hnumbered timer hmem)

/-- Cancelling a timer with a foreign number is quiet. -/
lemma cancel {id : TimerId} (hid : host.timers.Foreign id) :
    Host.Quiet host (host.cancel id) := by
  refine ⟨⟨rfl, rfl, Nat.le_refl _, ?_, by simp⟩, rfl⟩
  rw [List.append_nil]
  show (host.timers.pending.filter _).filter _ = host.timers.pending.filter _
  rw [List.filter_filter]
  refine List.filter_congr (fun timer hmem => ?_)
  cases htask : timer.task.isRevoke with
  | false => rfl
  | true =>
    have hne : timer.id ≠ id := hid.2 timer (List.mem_filter.2 ⟨hmem, htask⟩)
    simp [hne]

lemma cancel? {number : Option TimerId}
    (hid : ∀ id, number = some id → host.timers.Foreign id) :
    Host.Quiet host (host.cancel? number) := by
  cases number with
  | none => exact refl host
  | some id => exact cancel (hid id rfl)

end Host.Quiet

end DeviceStandby
