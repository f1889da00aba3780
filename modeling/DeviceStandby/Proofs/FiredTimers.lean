import DeviceStandby.Proofs.RevokeTimers
import DeviceStandby.Proofs.SoleTimers
import Mathlib.Data.List.Induction

/-!
# Every timer fires once, when it is due

A source of timers is asked to arm timers, to cancel them and to move its clock, in any order.  What
becomes of an armed timer is told by the calls since then (`TimerSource.Waits`): it waits as long as
it is not cancelled and no advance has brought the clock to the time at which it is due.  One step
is `TimerSource.mem_pending_afterCall`, and `TimerSource.mem_pending_afterCalls` is a whole run.

So a timer fires with the first advance that reaches its time, and then never again
(`TimerSource.mem_fired_iff`, `TimerSource.id_ne_of_fired`).  Those that fire together do so in the
order of their times, and of their numbers among equal times (`TimerSource.advance_pairwise`).
-/

namespace DeviceStandby

/-- What can be asked of a source of timers. -/
inductive TimerCall where
  | arm (delay : Nat) (task : TimerTask)
  | cancel (id : TimerId)
  | advance (millis : Nat)
  /-- From now on no timer can be armed, or timers can be armed again. -/
  | fail (on : Bool)
deriving DecidableEq, Repr

namespace TimerCall

/-- By how much a call moves the clock. -/
def millis : TimerCall → Nat
  | advance millis => millis
  | arm _ _ | cancel _ | fail _ => 0

/-- The number of milliseconds fits 64 bits with a sign, as the clock does. -/
def Fits : TimerCall → Prop
  | arm delay _ => (delay : Int) ≤ Width.int64.greatest
  | advance millis => (millis : Int) ≤ Width.int64.greatest
  | cancel _ | fail _ => True

instance : DecidablePred Fits
  | arm delay _ => inferInstanceAs (Decidable ((delay : Int) ≤ Width.int64.greatest))
  | advance millis => inferInstanceAs (Decidable ((millis : Int) ≤ Width.int64.greatest))
  | cancel _ | fail _ => .isTrue trivial

end TimerCall

namespace TimerSource

variable {source : TimerSource} {timer : ArmedTimer}

/-! ## Calls -/

/-- The source after a call. -/
def afterCall (source : TimerSource) : TimerCall → TimerSource
  | .arm delay task => (source.arm delay task).2
  | .cancel id => (source.cancel id).2
  | .advance millis => (source.advance millis).2
  | .fail on => { source with failing := on }

/-- The source after some calls, the first one first. -/
def afterCalls (source : TimerSource) (calls : List TimerCall) : TimerSource :=
  calls.foldl afterCall source

lemma afterCalls_append (source : TimerSource) (calls more : List TimerCall) :
    source.afterCalls (calls ++ more) = (source.afterCalls calls).afterCalls more :=
  List.foldl_append

/-- A source that fails arms nothing and stays as it is, and any other arms a timer under the next
number. -/
lemma arm_cases (source : TimerSource) (delay : Nat) (task : TimerTask) :
    source.failing = true ∧ source.arm delay task = (none, source) ∨
    source.failing = false ∧ source.arm delay task = (some source.nextId,
      { source with
        nextId := source.nextId + 1
        pending := source.pending ++ [⟨source.nextId, source.now + wrap64 delay, task⟩] }) := by
  unfold arm armAt
  cases hfails : source.failing with
  | true => exact .inl ⟨rfl, rfl⟩
  | false => exact .inr ⟨rfl, rfl⟩

lemma arm_of_some {delay : Nat} {task : TimerTask} {id : TimerId}
    (h : (source.arm delay task).1 = some id) :
    id = source.nextId ∧ (source.arm delay task).2 =
      { source with
        nextId := source.nextId + 1
        pending := source.pending ++ [⟨id, source.now + wrap64 delay, task⟩] } := by
  rcases source.arm_cases delay task with ⟨-, harm⟩ | ⟨-, harm⟩
  · rw [harm] at h
    cases h
  · rw [harm] at h ⊢
    obtain rfl := Option.some.inj h
    exact ⟨rfl, rfl⟩

/-- A number that was given is not given again. -/
lemma id_lt_of_arm {delay : Nat} {task : TimerTask} {id : TimerId}
    (h : (source.arm delay task).1 = some id) : id < (source.arm delay task).2.nextId := by
  obtain ⟨hid, hafter⟩ := arm_of_some h
  rw [hafter, hid]
  exact Nat.lt_succ_self _

lemma Ordered.afterCall (h : source.Ordered) (call : TimerCall) :
    (source.afterCall call).Ordered := by
  cases call with
  | arm delay task =>
    have hhost : ({ timers := source } : Host).timers.Ordered := h
    exact hhost.arm delay task
  | cancel | advance => exact h.of_sublist rfl List.filter_sublist
  | fail => exact h.of_sublist rfl (List.Sublist.refl _)

lemma nextId_afterCall (source : TimerSource) (call : TimerCall) :
    source.nextId ≤ (source.afterCall call).nextId := by
  cases call with
  | arm delay task =>
    rcases source.arm_cases delay task with ⟨-, harm⟩ | ⟨-, harm⟩ <;> simp [afterCall, harm]
  | cancel | advance | fail => exact Nat.le_refl _

lemma now_afterCall {call : TimerCall} (hfits : call.Fits) (source : TimerSource) :
    (source.afterCall call).now = source.now + call.millis := by
  cases call with
  | arm delay task =>
    have hsame : (source.arm delay task).2.now = source.now := by
      rcases source.arm_cases delay task with ⟨-, harm⟩ | ⟨-, harm⟩ <;> rw [harm]
    exact hsame.trans (Int.add_zero _).symm
  | advance millis =>
    show source.now + wrap64 millis = source.now + millis
    rw [wrap64_of_le (Int.natCast_nonneg _) hfits]
  | cancel | fail => exact (Int.add_zero _).symm

/-- By how much some calls move the clock. -/
def elapsed : List TimerCall → Nat
  | [] => 0
  | call :: calls => call.millis + elapsed calls

@[simp] lemma elapsed_nil : elapsed [] = 0 := rfl

@[simp] lemma elapsed_cons (call : TimerCall) (calls : List TimerCall) :
    elapsed (call :: calls) = call.millis + elapsed calls := rfl

lemma now_afterCalls {calls : List TimerCall} (hfits : ∀ call ∈ calls, call.Fits)
    (source : TimerSource) : (source.afterCalls calls).now = source.now + elapsed calls := by
  induction calls generalizing source with
  | nil => exact (Int.add_zero _).symm
  | cons call rest ih =>
    obtain ⟨hcall, hrest⟩ := List.forall_mem_cons.1 hfits
    have hnow := ih hrest (source.afterCall call)
    rw [now_afterCall hcall] at hnow
    rw [elapsed_cons, Int.natCast_add, ← Int.add_assoc]
    exact hnow

lemma nextId_afterCalls (source : TimerSource) (calls : List TimerCall) :
    source.nextId ≤ (source.afterCalls calls).nextId := by
  induction calls generalizing source with
  | nil => exact Nat.le_refl _
  | cons call rest ih =>
    exact Nat.le_trans (source.nextId_afterCall call) (ih (source.afterCall call))

lemma Ordered.afterCalls (h : source.Ordered) (calls : List TimerCall) :
    (source.afterCalls calls).Ordered := by
  induction calls generalizing source with
  | nil => exact h
  | cons call rest ih => exact ih (h.afterCall call)

/-! ## Timers that wait -/

/-- What a timer needs of the calls since it was armed, at the time `clock`, to be waiting still: it
was not cancelled, and no advance ended at the time at which it is due, or later. -/
structure Waits (id : TimerId) (clock due : Int) (since : List TimerCall) : Prop where
  kept : .cancel id ∉ since
  early : ∀ earlier (millis : Nat), earlier ++ [.advance millis] <+: since →
    clock + elapsed earlier + millis < due

namespace Waits

variable {id : TimerId} {clock due : Int} {call : TimerCall} {since : List TimerCall}

lemma nil : Waits id clock due [] where
  kept := List.not_mem_nil
  early := by
    intro earlier millis hprefix
    exact absurd (List.prefix_nil.1 hprefix) (by simp)

lemma cons_iff : Waits id clock due (call :: since) ↔
    (call ≠ .cancel id ∧ ∀ millis : Nat, call = .advance millis → clock + millis < due) ∧
      Waits id (clock + call.millis) due since := by
  constructor
  · intro h
    refine ⟨⟨fun hcall => h.kept (hcall ▸ List.mem_cons_self), fun millis hcall => ?_⟩,
      fun hmem => h.kept (List.mem_cons_of_mem _ hmem), fun earlier millis hprefix => ?_⟩
    · have hless := h.early [] millis (by simp [hcall])
      simpa using hless
    · have hless := h.early (call :: earlier) millis (by simpa using hprefix)
      simpa [Int.add_assoc] using hless
  · rintro ⟨⟨hkept, hearly⟩, h⟩
    refine ⟨fun hmem => ?_, fun earlier millis hprefix => ?_⟩
    · rcases List.mem_cons.1 hmem with hcall | hmem
      · exact hkept hcall.symm
      · exact h.kept hmem
    · cases earlier with
      | nil =>
        have hcall : call = .advance millis := by simpa [eq_comm] using hprefix
        simpa using hearly millis hcall
      | cons first earlier =>
        obtain ⟨rfl, hrest⟩ := List.cons_prefix_cons.1 hprefix
        simpa [Int.add_assoc] using h.early earlier millis hrest

end Waits

/-- One call: a timer whose number has been given waits after it if it waited before, is not
cancelled by it, and is not reached by it. -/
lemma mem_pending_afterCall {call : TimerCall} (hfits : call.Fits)
    (hid : timer.id < source.nextId) :
    timer ∈ (source.afterCall call).pending ↔ timer ∈ source.pending ∧
      call ≠ .cancel timer.id ∧
        ∀ millis : Nat, call = .advance millis → source.now + millis < timer.due := by
  cases call with
  | arm delay task =>
    have hsame : timer ∈ (source.arm delay task).2.pending ↔ timer ∈ source.pending := by
      rcases source.arm_cases delay task with ⟨-, harm⟩ | ⟨-, harm⟩
      · rw [harm]
      · rw [harm, List.mem_append, List.mem_singleton]
        refine or_iff_left (fun heq => ?_)
        rw [heq] at hid
        exact Nat.lt_irrefl _ hid
    exact hsame.trans (and_iff_left ⟨by simp, by simp⟩).symm
  | cancel id =>
    simp [afterCall, cancel, eq_comm (a := id)]
  | advance millis =>
    have hnow : wrap64 millis = millis := wrap64_of_le (Int.natCast_nonneg _) hfits
    simp [afterCall, advance, hnow]
  | fail on => simp [afterCall]

/-- A run of calls. -/
theorem mem_pending_afterCalls {calls : List TimerCall} (hfits : ∀ call ∈ calls, call.Fits)
    (hid : timer.id < source.nextId) :
    timer ∈ (source.afterCalls calls).pending ↔
      timer ∈ source.pending ∧ Waits timer.id source.now timer.due calls := by
  induction calls generalizing source with
  | nil => exact (and_iff_left Waits.nil).symm
  | cons call rest ih =>
    obtain ⟨hcall, hrest⟩ := List.forall_mem_cons.1 hfits
    have hnext : timer.id < (source.afterCall call).nextId :=
      Nat.lt_of_lt_of_le hid (source.nextId_afterCall call)
    rw [Waits.cons_iff, ← and_assoc, ← mem_pending_afterCall hcall hid, ← now_afterCall hcall]
    exact ih hrest hnext

/-! ## Timers that were armed -/

/-- Among some calls a timer was armed, at the time `clock`, and the calls `since` came after
that. -/
def Arms (source : TimerSource) (calls : List TimerCall) (timer : ArmedTimer) (clock : Int)
    (since : List TimerCall) : Prop :=
  ∃ before delay, calls = before ++ .arm delay timer.task :: since ∧
    ((source.afterCalls before).arm delay timer.task).1 = some timer.id ∧
    clock = (source.afterCalls before).now ∧ timer.due = clock + delay

namespace Arms

variable {calls since : List TimerCall} {clock : Int}

lemma append (h : source.Arms calls timer clock since) (more : List TimerCall) :
    source.Arms (calls ++ more) timer clock (since ++ more) := by
  obtain ⟨before, delay, rfl, h⟩ := h
  exact ⟨before, delay, by simp, h⟩

lemma since_subset (h : source.Arms calls timer clock since) : since ⊆ calls := by
  obtain ⟨before, delay, rfl, -⟩ := h
  exact fun call hmem => List.mem_append_right _ (List.mem_cons_of_mem _ hmem)

lemma id_lt (h : source.Arms calls timer clock since) :
    timer.id < (source.afterCalls calls).nextId := by
  obtain ⟨before, delay, rfl, harm, -⟩ := h
  rw [afterCalls_append]
  exact Nat.lt_of_lt_of_le (id_lt_of_arm harm) (nextId_afterCalls _ since)

/-- A timer that was armed is still armed if and only if the calls since then let it wait. -/
lemma mem_pending_iff (h : source.Arms calls timer clock since)
    (hfits : ∀ call ∈ calls, call.Fits) :
    timer ∈ (source.afterCalls calls).pending ↔ Waits timer.id clock timer.due since := by
  have hsince : ∀ call ∈ since, call.Fits := fun call hmem => hfits call (h.since_subset hmem)
  obtain ⟨before, delay, rfl, harm, rfl, hdue⟩ := h
  have hdelay : (delay : Int) ≤ Width.int64.greatest := hfits (.arm delay timer.task) (by simp)
  obtain ⟨-, hafter⟩ := arm_of_some harm
  have hmem : timer ∈ ((source.afterCalls before).arm delay timer.task).2.pending := by
    rw [hafter, wrap64_of_le (Int.natCast_nonneg _) hdelay, ← hdue]
    exact List.mem_append_right _ List.mem_cons_self
  have hrun := mem_pending_afterCalls hsince (id_lt_of_arm harm)
  rw [and_iff_right hmem, hafter] at hrun
  rw [afterCalls_append, ← hrun, ← hafter]
  rfl

end Arms

/-- No timer is there unless it was armed. -/
lemma exists_arms {calls : List TimerCall} (hnone : source.pending = [])
    (hfits : ∀ call ∈ calls, call.Fits) (hmem : timer ∈ (source.afterCalls calls).pending) :
    ∃ clock since, source.Arms calls timer clock since := by
  induction calls using List.reverseRecOn with
  | nil => rw [afterCalls, List.foldl_nil, hnone] at hmem; cases hmem
  | append_singleton calls call ih =>
    obtain ⟨hcalls, hcall⟩ := List.forall_mem_append.1 hfits
    have hold (hmem : timer ∈ (source.afterCalls calls).pending) :
        ∃ clock since, source.Arms (calls ++ [call]) timer clock since := by
      obtain ⟨clock, since, h⟩ := ih hcalls hmem
      exact ⟨clock, since ++ [call], h.append [call]⟩
    rw [afterCalls_append] at hmem
    cases call with
    | arm delay task =>
      change timer ∈ ((source.afterCalls calls).arm delay task).2.pending at hmem
      rcases (source.afterCalls calls).arm_cases delay task with ⟨-, harm⟩ | ⟨-, harm⟩
      · rw [harm] at hmem
        exact hold hmem
      · rw [harm, List.mem_append, List.mem_singleton] at hmem
        rcases hmem with hmem | rfl
        · exact hold hmem
        · have hdelay : (delay : Int) ≤ Width.int64.greatest := hcall _ List.mem_cons_self
          refine ⟨_, [], calls, delay, rfl, congrArg Prod.fst harm, rfl, ?_⟩
          rw [wrap64_of_le (Int.natCast_nonneg _) hdelay]
    | cancel | advance => exact hold (List.mem_filter.1 hmem).1
    | fail => exact hold hmem

/-! ## Timers that fire -/

lemma mem_advance {millis : Nat} (hfits : (TimerCall.advance millis).Fits) :
    timer ∈ (source.advance millis).1 ↔
      timer ∈ source.pending ∧ timer.due ≤ source.now + millis := by
  have hnow : wrap64 millis = millis := wrap64_of_le (Int.natCast_nonneg _) hfits
  rw [advance, mem_byDue, List.mem_filter, hnow, decide_eq_true_eq]

/-- Of two timers that are due, the one that fires first: the one that is due earlier, and of those
due together the one with the smaller number. -/
def FiresBefore (timer later : ArmedTimer) : Prop :=
  timer.due < later.due ∨ timer.due = later.due ∧ timer.id < later.id

namespace FiresBefore

variable {later : ArmedTimer}

lemma of_le (hdue : timer.due ≤ later.due) (hnumber : timer.id < later.id) :
    FiresBefore timer later :=
  (Int.lt_or_eq_of_le hdue).imp_right (fun heq => ⟨heq, hnumber⟩)

lemma due_le (h : FiresBefore timer later) : timer.due ≤ later.due := by
  rcases h with hless | ⟨heq, -⟩
  · exact Int.le_of_lt hless
  · exact Int.le_of_eq heq

end FiresBefore

lemma pairwise_insertByDue {timers : List ArmedTimer} (h : timers.Pairwise FiresBefore)
    (hnumbers : ∀ later ∈ timers, timer.id < later.id) :
    (insertByDue timer timers).Pairwise FiresBefore := by
  induction timers with
  | nil => exact List.pairwise_singleton _ _
  | cons other rest ih =>
    obtain ⟨hother, hrest⟩ := List.pairwise_cons.1 h
    rw [insertByDue]
    split
    · rename_i hdue
      refine List.pairwise_cons.2 ⟨fun later hlater => .of_le ?_ (hnumbers later hlater), h⟩
      rcases List.mem_cons.1 hlater with rfl | hlater
      · exact hdue
      · exact Int.le_trans hdue (hother later hlater).due_le
    · rename_i hdue
      refine List.pairwise_cons.2 ⟨fun later hlater => ?_,
        ih hrest (fun later hlater => hnumbers later (List.mem_cons_of_mem _ hlater))⟩
      rcases mem_insertByDue.1 hlater with rfl | hlater
      · exact .inl (Int.not_le.1 hdue)
      · exact hother later hlater

lemma pairwise_byDue {timers : List ArmedTimer}
    (h : timers.Pairwise (fun timer later => timer.id < later.id)) :
    (byDue timers).Pairwise FiresBefore := by
  induction timers with
  | nil => exact .nil
  | cons timer rest ih =>
    obtain ⟨htimer, hrest⟩ := List.pairwise_cons.1 h
    exact pairwise_insertByDue (ih hrest) (fun later hlater => htimer later (mem_byDue.1 hlater))

/-- The timers that an advance fires come in order, and none of them comes twice. -/
lemma advance_pairwise (h : source.Ordered) (millis : Nat) :
    (source.advance millis).1.Pairwise FiresBefore :=
  pairwise_byDue (h.ascending.sublist List.filter_sublist)

/-! ## Runs of calls -/

lemma failing_afterCalls {calls : List TimerCall} (h : ∀ on, .fail on ∉ calls)
    (source : TimerSource) : (source.afterCalls calls).failing = source.failing := by
  induction calls generalizing source with
  | nil => rfl
  | cons call rest ih =>
    refine (ih (fun on hmem => h on (List.mem_cons_of_mem _ hmem)) (source.afterCall call)).trans ?_
    cases call with
    | arm delay task =>
      show (source.arm delay task).2.failing = source.failing
      rcases source.arm_cases delay task with ⟨-, harm⟩ | ⟨-, harm⟩ <;> rw [harm]
    | cancel | advance => rfl
    | fail on => exact absurd List.mem_cons_self (h on)

/-- The timers that are armed are those that were armed by some call and wait since then. -/
theorem mem_pending_iff_arms {calls : List TimerCall} (hnone : source.pending = [])
    (hfits : ∀ call ∈ calls, call.Fits) :
    timer ∈ (source.afterCalls calls).pending ↔
      ∃ clock since, source.Arms calls timer clock since ∧
        Waits timer.id clock timer.due since := by
  constructor
  · intro hmem
    obtain ⟨clock, since, harms⟩ := exists_arms hnone hfits hmem
    exact ⟨clock, since, harms, (harms.mem_pending_iff hfits).1 hmem⟩
  · rintro ⟨clock, since, harms, hwaits⟩
    exact (harms.mem_pending_iff hfits).2 hwaits

lemma mem_fired_iff {calls : List TimerCall} {millis : Nat} (hnone : source.pending = [])
    (hfits : ∀ call ∈ calls, call.Fits) (hmillis : (TimerCall.advance millis).Fits) :
    timer ∈ ((source.afterCalls calls).advance millis).1 ↔
      ∃ clock since, source.Arms calls timer clock since ∧
        Waits timer.id clock timer.due since ∧
        timer.due ≤ (source.afterCalls calls).now + millis := by
  rw [mem_advance hmillis, mem_pending_iff_arms hnone hfits]
  constructor
  · rintro ⟨⟨clock, since, harms, hwaits⟩, hdue⟩
    exact ⟨clock, since, harms, hwaits, hdue⟩
  · rintro ⟨clock, since, harms, hwaits, hdue⟩
    exact ⟨⟨clock, since, harms, hwaits⟩, hdue⟩

lemma cancel_eq_true_iff {calls : List TimerCall} (hnone : source.pending = [])
    (hfits : ∀ call ∈ calls, call.Fits) (id : TimerId) :
    ((source.afterCalls calls).cancel id).1 = true ↔
      ∃ timer clock since, timer.id = id ∧ source.Arms calls timer clock since ∧
        Waits id clock timer.due since := by
  unfold cancel
  rw [List.any_eq_true]
  constructor
  · rintro ⟨timer, hmem, hid⟩
    obtain rfl := of_decide_eq_true hid
    obtain ⟨clock, since, h⟩ := (mem_pending_iff_arms hnone hfits).1 hmem
    exact ⟨timer, clock, since, rfl, h⟩
  · rintro ⟨timer, clock, since, rfl, h⟩
    exact ⟨timer, (mem_pending_iff_arms hnone hfits).2 ⟨clock, since, h⟩, decide_eq_true rfl⟩

/-- A timer that fired does not fire again, whatever is asked after that. -/
lemma id_ne_of_fired (h : source.Ordered) {millis again : Nat} {more : List TimerCall}
    (hmillis : (TimerCall.advance millis).Fits) (hmore : ∀ call ∈ more, call.Fits)
    (hagain : (TimerCall.advance again).Fits) (hfired : timer ∈ (source.advance millis).1)
    {other : ArmedTimer}
    (hother : other ∈ ((source.afterCalls (.advance millis :: more)).advance again).1) :
    other.id ≠ timer.id := by
  intro hid
  obtain ⟨hmem, hdue⟩ := (mem_advance hmillis).1 hfired
  have hpending := ((mem_advance hagain).1 hother).1
  have hless : other.id < source.nextId := hid ▸ h.counted timer hmem
  obtain ⟨hbefore, hwaits⟩ :=
    (mem_pending_afterCalls (List.forall_mem_cons.2 ⟨hmillis, hmore⟩) hless).1 hpending
  -- So the other timer is the same, and the advance that fired it had not reached its time.
  obtain rfl := h.eq_of_id hbefore hmem hid
  exact Int.not_lt.2 hdue ((Waits.cons_iff.1 hwaits).1.2 millis rfl)

/-- Whatever was asked of a source that had no timers: the clock has moved by what the advances
said; a timer that is armed now gets a greater number than all that were armed earlier; an advance
fires the timers that were armed, wait still and are due by then, in the order of their times and of
their numbers among equal times, and they are not fired again; and cancelling says whether the timer
was armed and waits still. -/
theorem timers_fire_once_when_due {calls : List TimerCall} (hnone : source.pending = [])
    (hfits : ∀ call ∈ calls, call.Fits) :
    (source.afterCalls calls).now = source.now + elapsed calls ∧
    (source.failing = false → (∀ on, .fail on ∉ calls) →
      ∀ delay task, ∃ id, ((source.afterCalls calls).arm delay task).1 = some id) ∧
    (∀ delay task id, ((source.afterCalls calls).arm delay task).1 = some id →
      ∀ timer clock since, source.Arms calls timer clock since → timer.id < id) ∧
    (∀ millis, (TimerCall.advance millis).Fits →
      (∀ timer, timer ∈ ((source.afterCalls calls).advance millis).1 ↔
        ∃ clock since, source.Arms calls timer clock since ∧
          Waits timer.id clock timer.due since ∧
          timer.due ≤ (source.afterCalls calls).now + millis) ∧
      ((source.afterCalls calls).advance millis).1.Pairwise FiresBefore ∧
      ∀ timer ∈ ((source.afterCalls calls).advance millis).1,
        ∀ more, (∀ call ∈ more, call.Fits) → ∀ again, (TimerCall.advance again).Fits →
          ∀ other ∈ ((source.afterCalls (calls ++ .advance millis :: more)).advance again).1,
            other.id ≠ timer.id) ∧
    (∀ id, ((source.afterCalls calls).cancel id).1 = true ↔
      ∃ timer clock since, timer.id = id ∧ source.Arms calls timer clock since ∧
        Waits id clock timer.due since) := by
  have hordered : (source.afterCalls calls).Ordered := by
    refine Ordered.afterCalls ⟨hnone ▸ .nil, fun timer hmem => ?_⟩ calls
    rw [hnone] at hmem
    cases hmem
  refine ⟨now_afterCalls hfits source, ?arms, ?numbers, ?fires, cancel_eq_true_iff hnone hfits⟩
  case arms =>
    intro hworks hnever delay task
    rcases (source.afterCalls calls).arm_cases delay task with ⟨hfails, -⟩ | ⟨-, harm⟩
    · rw [failing_afterCalls hnever, hworks] at hfails
      cases hfails
    · exact ⟨_, congrArg Prod.fst harm⟩
  case numbers =>
    intro delay task id harm timer clock since harms
    rw [(arm_of_some harm).1]
    exact harms.id_lt
  case fires =>
    intro millis hmillis
    refine ⟨fun timer => mem_fired_iff hnone hfits hmillis, advance_pairwise hordered millis, ?_⟩
    intro timer hfired more hmore again hagain other hother
    rw [afterCalls_append] at hother
    exact id_ne_of_fired hordered hmillis hmore hagain hfired hother

/-- Of four timers the second is due at once, the third is cancelled, and the first and the last are
due together, although they were not armed together. -/
def mixed : List TimerCall :=
  [.arm 10 .dayNightSwitch, .arm 0 (.transitNextPhase .dark), .arm 6 (.transitNextState .dark),
    .advance 4, .cancel 3, .arm 6 (.transitNextState .nap)]

theorem timers_of_mixed_calls :
    (∀ call ∈ mixed, call.Fits) ∧ (({ now := 1000 } : TimerSource).afterCalls mixed).now = 1004 ∧
    Arms { now := 1000 } mixed ⟨1, 1010, .dayNightSwitch⟩ 1000 (mixed.drop 1) ∧
    Waits 1 1000 1010 (mixed.drop 1) ∧ ¬ Waits 3 1000 1006 (mixed.drop 3) ∧
    ⟨1, 1010, .dayNightSwitch⟩ ∈ ((({ now := 1000 } : TimerSource).afterCalls mixed).advance 6).1 ∧
    ((({ now := 1000 } : TimerSource).afterCalls mixed).advance 6).1.map ArmedTimer.id = [1, 4] ∧
    ((({ now := 1000 } : TimerSource).afterCalls mixed).advance 6).1.Pairwise FiresBefore ∧
    ((({ now := 1000 } : TimerSource).afterCalls mixed).cancel 1).1 = true := by
  have hfits : ∀ call ∈ mixed, call.Fits := by decide
  have harms : Arms { now := 1000 } mixed ⟨1, 1010, .dayNightSwitch⟩ 1000 (mixed.drop 1) :=
    ⟨[], 10, rfl, rfl, rfl, rfl⟩
  have hwaits : Waits 1 1000 1010 (mixed.drop 1) :=
    (harms.mem_pending_iff hfits).1 (by decide)
  have hcancelled : ¬ Waits 3 1000 1006 (mixed.drop 3) := fun h => h.kept (by decide)
  have hnone : ({ now := 1000 } : TimerSource).pending = [] := rfl
  obtain ⟨hnow, -, -, hfires, hcancels⟩ := timers_fire_once_when_due hnone hfits
  obtain ⟨hfired, hsorted, -⟩ := hfires 6 (by decide)
  exact ⟨hfits, hnow, harms, hwaits, hcancelled,
    (hfired _).2 ⟨1000, mixed.drop 1, harms, hwaits, hnow ▸ by decide⟩, by decide, hsorted,
    (hcancels 1).2 ⟨_, 1000, mixed.drop 1, rfl, harms, hwaits⟩⟩

end TimerSource

end DeviceStandby
