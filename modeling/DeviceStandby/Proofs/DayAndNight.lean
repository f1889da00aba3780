import DeviceStandby.Proofs.EngineTimers
import DeviceStandby.Proofs.Momentum

/-!
# The timer waits until day turns to night

Whether a second of the day lies in a daily window, and how long it is until the window next begins
or ends, are worked out apart from each other, and both have to look out for midnight.  They agree:
from one second to the next the window is left or entered at its edges only, and at each of them if
there are two (`DailyWindow.contains_next`, `DailyWindow.contains_turn`).  So nothing changes before
the next edge is reached, and everything does then (`DailyWindow.contains_until`,
`DailyWindow.contains_at_edge`).

The timer for the change between day and night is armed for just that time, and so the condition in
effect stays what it is as long as the timer waits, and is the other one when it is due
(`day_night_timer_waits_for_change`).
-/

namespace DeviceStandby

/-- There is such a time of day. -/
def ClockTime.Valid (time : ClockTime) : Prop := ClockTime.new? time.hour time.minute = some time

/-- The second of the day that comes some seconds after another. -/
def laterSecond (second seconds : Nat) : Nat := (second + seconds) % secondsPerDay

namespace ClockTime

variable {time other : ClockTime}

lemma valid_iff : time.Valid ↔ time.hour < 24 ∧ time.minute < 60 := by
  simp [Valid, new?]

lemma Valid.seconds_lt (h : time.Valid) : time.seconds < secondsPerDay := by
  obtain ⟨hhour, hminute⟩ := valid_iff.1 h
  simp only [seconds, secondsPerDay]
  omega

lemma Valid.seconds_inj (h : time.Valid) (hother : other.Valid) :
    time.seconds = other.seconds ↔ time = other := by
  refine ⟨fun hseconds => ?_, congrArg seconds⟩
  obtain ⟨-, hminute⟩ := valid_iff.1 h
  obtain ⟨-, hminute'⟩ := valid_iff.1 hother
  obtain ⟨hour, minute⟩ := time
  obtain ⟨hour', minute'⟩ := other
  simp only [seconds, mk.injEq] at *
  omega

end ClockTime

/-! ## From one second to the next -/

section LaterSecond

variable {second edge seconds : Nat}

lemma laterSecond_lt (second seconds : Nat) : laterSecond second seconds < secondsPerDay :=
  Nat.mod_lt _ (by decide)

lemma laterSecond_zero (hsecond : second < secondsPerDay) : laterSecond second 0 = second :=
  Nat.mod_eq_of_lt hsecond

lemma laterSecond_succ (second seconds : Nat) :
    laterSecond second (seconds + 1) = laterSecond (laterSecond second seconds) 1 := by
  rw [laterSecond, laterSecond, laterSecond, Nat.mod_add_mod, Nat.add_assoc]

/-- The wall clock goes through the seconds of the day. -/
lemma Moment.secondOfDay_addSeconds (moment : Moment) (seconds : Nat) :
    (moment.addSeconds seconds).secondOfDay = laterSecond moment.secondOfDay seconds := by
  simp only [secondOfDay, addSeconds, laterSecond, secondsPerDay]
  omega

/-- The clock shows the edge when the time until then has gone by, -/
lemma laterSecond_secondsUntil (hsecond : second < secondsPerDay) (hedge : edge < secondsPerDay) :
    laterSecond second (DailyWindow.secondsUntil second edge) = edge := by
  simp only [laterSecond, DailyWindow.secondsUntil, secondsPerDay] at *
  split <;> omega

/-- and not before. -/
lemma laterSecond_ne (hsecond : second < secondsPerDay) (hpos : 0 < seconds)
    (hless : seconds < DailyWindow.secondsUntil second edge) :
    laterSecond second seconds ≠ edge := by
  simp only [laterSecond, DailyWindow.secondsUntil, secondsPerDay] at *
  split at hless <;> omega

end LaterSecond

namespace DailyWindow

variable {window : DailyWindow} {second seconds : Nat}

section Edges

variable (hstart : window.start.seconds < secondsPerDay)
  (hstop : window.stop.seconds < secondsPerDay) (hsecond : second < secondsPerDay)

include hstart hstop hsecond

/-- Where there is no edge the window is neither entered nor left. -/
lemma contains_next (hnotStart : laterSecond second 1 ≠ window.start.seconds)
    (hnotStop : laterSecond second 1 ≠ window.stop.seconds) :
    window.contains (laterSecond second 1) = window.contains second := by
  simp only [laterSecond, secondsPerDay] at *
  rw [Bool.eq_iff_iff]
  unfold contains
  split <;> simp <;> omega

/-- At each of two different edges the window is entered or left. -/
lemma contains_turn (hne : window.start.seconds ≠ window.stop.seconds)
    (hedge : laterSecond second 1 = window.start.seconds ∨
      laterSecond second 1 = window.stop.seconds) :
    window.contains (laterSecond second 1) = !window.contains second := by
  simp only [laterSecond, secondsPerDay] at *
  rw [Bool.eq_not, ne_eq, Bool.eq_iff_iff]
  unfold contains
  split <;> simp <;> omega

/-! ## Until the next edge -/

lemma untilNextEdge_mem :
    0 < window.untilNextEdge second ∧ window.untilNextEdge second ≤ secondsPerDay := by
  obtain ⟨hpos, hle⟩ := secondsUntil_mem hsecond hstart
  obtain ⟨hpos', -⟩ := secondsUntil_mem hsecond hstop
  exact ⟨Nat.lt_min.2 ⟨hpos, hpos'⟩, Nat.le_trans (Nat.min_le_left _ _) hle⟩

/-- The next edge that is reached is one of the two. -/
lemma laterSecond_untilNextEdge :
    laterSecond second (window.untilNextEdge second) = window.start.seconds ∨
      laterSecond second (window.untilNextEdge second) = window.stop.seconds := by
  unfold untilNextEdge
  rcases Nat.le_total (secondsUntil second window.start.seconds)
    (secondsUntil second window.stop.seconds) with hle | hle
  · rw [Nat.min_eq_left hle]
    exact Or.inl (laterSecond_secondsUntil hsecond hstart)
  · rw [Nat.min_eq_right hle]
    exact Or.inr (laterSecond_secondsUntil hsecond hstop)

/-- Before the next edge nothing changes. -/
lemma contains_until (hless : seconds < window.untilNextEdge second) :
    window.contains (laterSecond second seconds) = window.contains second := by
  induction seconds with
  | zero => rw [laterSecond_zero hsecond]
  | succ seconds ih =>
    obtain ⟨hbeforeStart, hbeforeStop⟩ := Nat.lt_min.1 hless
    have hnotStart := laterSecond_ne hsecond (Nat.succ_pos seconds) hbeforeStart
    have hnotStop := laterSecond_ne hsecond (Nat.succ_pos seconds) hbeforeStop
    rw [laterSecond_succ] at hnotStart hnotStop ⊢
    rw [contains_next hstart hstop (laterSecond_lt _ _) hnotStart hnotStop]
    exact ih (Nat.lt_of_succ_lt hless)

/-- At the next edge the window is entered or left. -/
lemma contains_at_edge (hne : window.start.seconds ≠ window.stop.seconds) :
    window.contains (laterSecond second (window.untilNextEdge second)) =
      !window.contains second := by
  obtain ⟨hpos, -⟩ := untilNextEdge_mem hstart hstop hsecond
  have hedge := laterSecond_untilNextEdge hstart hstop hsecond
  obtain ⟨before, hbefore⟩ : ∃ before, window.untilNextEdge second = before + 1 :=
    Nat.exists_eq_add_one.2 hpos
  rw [hbefore, laterSecond_succ] at hedge ⊢
  rw [contains_turn hstart hstop (laterSecond_lt _ _) hne hedge,
    contains_until hstart hstop hsecond (by omega)]

end Edges

/-- A window that ends as it begins is empty. -/
lemma contains_of_start_eq_stop (h : window.start = window.stop) (second : Nat) :
    window.contains second = false := by
  simp [contains, h]

end DailyWindow

/-! ## The condition in effect -/

/-- Day and night are different conditions, so the condition in effect tells them apart. -/
lemma Policy.conditionAt_eq_iff {policy : Policy} {second other : Nat} :
    policy.conditionAt second = policy.conditionAt other ↔
      policy.night.contains second = policy.night.contains other := by
  have hdiffer : Condition.night ≠ Condition.day := by decide
  unfold conditionAt
  cases policy.night.contains second <;> cases policy.night.contains other <;>
    simp [hdiffer, hdiffer.symm]

/-- The timer for the change between day and night waits until the next edge. -/
lemma Engine.armDayNight_due (e : Engine) (hworks : e.host.timers.failing = false)
    (hday : e.policy.night.untilNextEdge e.host.wall.secondOfDay ≤ secondsPerDay) :
    ∃ timer ∈ e.armDayNight.host.timers.pending,
      e.armDayNight.dayNightTimer = some timer.id ∧ timer.task = .dayNightSwitch ∧
      timer.due = e.host.now + 1000 * e.policy.night.untilNextEdge e.host.wall.secondOfDay := by
  obtain ⟨hfails, -⟩ | ⟨-, hsome, hpending⟩ := e.armDayNight_cases
  · rw [hworks] at hfails
    cases hfails
  · have hgreatest : Width.int64.greatest = 0x7FFFFFFFFFFFFFFF := rfl
    simp only [secondsPerDay] at hday
    rw [wrap64_of_le (Int.natCast_nonneg _) (by omega)] at hpending
    refine ⟨_, hpending ▸ List.mem_append_right _ (List.mem_singleton_self _), hsome, rfl, ?_⟩
    dsimp only
    omega

/-- A daily window begins and ends at times of day, and the clock shows some second of the day.  Then
the time until the next edge is at least a second and at most a day.  As long as less than that goes
by, the clock shows seconds that all lie in the window, or all do not; and if the window does not
end as it begins, the second after that is the first of the others.  A window that ends as it begins
contains no second at all.

So if this window is the night, and the timer for the change between day and night is armed, it is
due after just that time.  Until then the condition is the one that is in effect now, and it is the
other one when the timer is due, unless it is day all the time. -/
theorem day_night_timer_waits_for_change {window : DailyWindow} (hstart : window.start.Valid)
    (hstop : window.stop.Valid) :
    (∀ second < secondsPerDay,
      let wait := window.untilNextEdge second
      (1 ≤ wait ∧ wait ≤ secondsPerDay) ∧
      (∀ seconds < wait,
        window.contains ((second + seconds) % secondsPerDay) = window.contains second) ∧
      (window.start ≠ window.stop →
        window.contains ((second + wait) % secondsPerDay) = !window.contains second)) ∧
    (window.start = window.stop → ∀ second, window.contains second = false) ∧
    ∀ e : Engine, e.policy.night = window → e.host.timers.failing = false →
      let wait := window.untilNextEdge e.host.wall.secondOfDay
      (∃ timer ∈ e.armDayNight.host.timers.pending,
        e.armDayNight.dayNightTimer = some timer.id ∧ timer.task = .dayNightSwitch ∧
        timer.due = e.host.now + 1000 * wait) ∧
      (∀ seconds < wait, e.policy.conditionAt (e.host.wall.addSeconds seconds).secondOfDay =
        e.toAdmission.condition) ∧
      (window.start ≠ window.stop →
        e.policy.conditionAt (e.host.wall.addSeconds wait).secondOfDay ≠
          e.toAdmission.condition) := by
  have hfirst := hstart.seconds_lt
  have hlast := hstop.seconds_lt
  have hne : window.start ≠ window.stop → window.start.seconds ≠ window.stop.seconds :=
    fun hdiffer => mt (hstart.seconds_inj hstop).1 hdiffer
  refine ⟨fun second hsecond => ⟨?_, fun seconds hless => ?_, fun hdiffer => ?_⟩,
    DailyWindow.contains_of_start_eq_stop, ?_⟩
  · exact DailyWindow.untilNextEdge_mem hfirst hlast hsecond
  · exact DailyWindow.contains_until hfirst hlast hsecond hless
  · exact DailyWindow.contains_at_edge hfirst hlast hsecond (hne hdiffer)
  · rintro e rfl hworks
    have hsecond : e.host.wall.secondOfDay < secondsPerDay := e.host.wall.secondOfDay_lt
    refine ⟨e.armDayNight_due hworks (DailyWindow.untilNextEdge_mem hfirst hlast hsecond).2,
      fun seconds hless => ?_, fun hdiffer hsame => ?_⟩
    · rw [Admission.condition, Policy.conditionAt_eq_iff, Moment.secondOfDay_addSeconds]
      exact DailyWindow.contains_until hfirst hlast hsecond hless
    · rw [Admission.condition, Policy.conditionAt_eq_iff, Moment.secondOfDay_addSeconds,
        DailyWindow.contains_at_edge hfirst hlast hsecond (hne hdiffer)] at hsame
      exact Bool.not_ne_self _ hsame

/-- At ten in the evening night has just begun, and it goes on over midnight for eight hours; at
midnight six of them are left. -/
theorem day_night_timer_waits_for_morning :
    let e := Engine.plain (Policy.default {})
    let evening := 79200
    defaultNight.untilNextEdge evening = 28800 ∧ defaultNight.contains evening = true ∧
    defaultNight.contains ((evening + 28799) % secondsPerDay) = true ∧
    defaultNight.contains ((evening + 28800) % secondsPerDay) = false ∧
    (∃ timer ∈ e.armDayNight.host.timers.pending, timer.task = .dayNightSwitch ∧
      timer.due = 21600000) ∧
    e.policy.conditionAt (e.host.wall.addSeconds 21599).secondOfDay = Condition.night ∧
    e.policy.conditionAt (e.host.wall.addSeconds 21600).secondOfDay ≠ Condition.night := by
  intro e evening
  have hwait : defaultNight.untilNextEdge evening = 28800 := by decide
  obtain ⟨hwindow, -, hengine⟩ :=
    day_night_timer_waits_for_change (show defaultNight.start.Valid from rfl) rfl
  obtain ⟨-, hsame, hturn⟩ := hwindow evening (by decide)
  obtain ⟨⟨timer, hmem, -, htask, hdue⟩, hnight, hmorning⟩ := hengine e rfl rfl
  have hnow : defaultNight.contains evening = true := by decide
  have hcondition : e.toAdmission.condition = Condition.night := by decide +kernel
  have hleft : defaultNight.untilNextEdge e.host.wall.secondOfDay = 21600 := by decide +kernel
  rw [hwait] at hsame hturn
  rw [hcondition, hleft] at hnight hmorning
  rw [hleft] at hdue
  refine ⟨hwait, hnow, ?_, ?_, ⟨timer, hmem, htask, hdue⟩, hnight 21599 (by decide),
    hmorning (by decide)⟩
  · rw [hsame 28799 (by decide), hnow]
  · rw [hturn (by decide), hnow, Bool.not_true]

end DeviceStandby
