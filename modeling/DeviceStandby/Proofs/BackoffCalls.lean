import DeviceStandby.Machine.Backoff
import Mathlib.Data.List.Induction
import Mathlib.Tactic.Lemma

/-!
# What a back-off hands out

A back-off hands out the intervals of a list one after the other: the first one, one place further
with each call for the next one, and the last one from then on (`Backoff.window`).  To hand out an
interval again leaves it where it is.

The list may be another one with each call.  So the place that a back-off remembers can lie beyond
the end of the list that it meets, but what it hands out is always on the list, unless that is empty
(`Backoff.getElem?_next`, `Backoff.getElem?_again`).  A back-off that is reset is as good as new,
and what it does next depends on the calls since then only (`Backoff.afterCalls_reset`).
-/

namespace DeviceStandby

/-- What can be asked of a back-off: the next interval of a list, the same one again, or to begin
anew. -/
inductive BackoffCall where
  | next (intervals : List Nat)
  | again (intervals : List Nat)
  | reset
deriving DecidableEq, Repr

namespace Backoff

variable {intervals : List Nat} {backoff : Backoff}

/-! ## One call -/

/-- The next interval is the one at the place to which the back-off has come. -/
lemma getElem?_next (hsome : intervals ≠ []) (backoff : Backoff) :
    intervals[(backoff.next intervals).2.index]? = some (backoff.next intervals).1 := by
  unfold next
  rw [if_neg (by simpa using hsome)]
  dsimp only
  generalize hindex : (if backoff.started then min (backoff.index + 1) (intervals.length - 1)
    else min backoff.index (intervals.length - 1)) = index
  have hbound : index < intervals.length := by
    have hlength := List.length_pos_iff.2 hsome
    split at hindex <;> omega
  rw [List.getD_eq_getElem?_getD, List.getElem?_eq_getElem hbound, Option.getD_some]

lemma next_started (hsome : intervals ≠ []) (backoff : Backoff) :
    (backoff.next intervals).2.started = true := by
  rw [next, if_neg (by simpa using hsome)]

lemma next_nil (backoff : Backoff) : backoff.next [] = (0, backoff) := rfl

lemma again_of_started (h : backoff.started = true) (intervals : List Nat) :
    backoff.again intervals =
      ((intervals[backoff.index]?).getD (intervals.getLastD 0), backoff) :=
  if_pos h

lemma again_of_not_started (h : backoff.started = false) (intervals : List Nat) :
    backoff.again intervals = backoff.next intervals :=
  if_neg (by simp [h])

/-- What is handed out again is the interval at the place of the back-off, or the last one if the
list has become too short. -/
lemma getElem?_again (hsome : intervals ≠ []) (backoff : Backoff) :
    intervals[min (backoff.again intervals).2.index (intervals.length - 1)]? =
      some (backoff.again intervals).1 := by
  have hlength := List.length_pos_iff.2 hsome
  cases hstarted : backoff.started with
  | false =>
    have hplace := getElem?_next hsome backoff
    obtain ⟨hbound, -⟩ := List.getElem?_eq_some_iff.1 hplace
    rw [again_of_not_started hstarted, Nat.min_eq_left (by omega), hplace]
  | true =>
    have hlast : intervals[intervals.length - 1]? = some (intervals.getLastD 0) := by
      rw [← List.getLast?_eq_getElem?, List.getLastD_eq_getLast?,
        List.getLast?_eq_some_getLast hsome, Option.getD_some]
    rw [again_of_started hstarted]
    dsimp only
    by_cases hbound : backoff.index < intervals.length
    · rw [Nat.min_eq_left (by omega), List.getElem?_eq_getElem hbound, Option.getD_some]
    · rw [Nat.min_eq_right (by omega), hlast, List.getElem?_eq_none (by omega), Option.getD_none]

lemma again_nil (backoff : Backoff) : (backoff.again []).1 = 0 := by
  cases hstarted : backoff.started with
  | false => rw [again_of_not_started hstarted, next_nil]
  | true => rw [again_of_started hstarted]; rfl

lemma next_mem (hsome : intervals ≠ []) (backoff : Backoff) :
    (backoff.next intervals).1 ∈ intervals :=
  List.mem_of_getElem? (getElem?_next hsome backoff)

lemma again_mem (hsome : intervals ≠ []) (backoff : Backoff) :
    (backoff.again intervals).1 ∈ intervals :=
  List.mem_of_getElem? (getElem?_again hsome backoff)

/-! ## Walking a list -/

section Walking

variable (n : Nat)

/-- The interval at a place, or the last one from there on; zero if there is none at all. -/
def window (intervals : List Nat) (n : Nat) : Nat := intervals.getD (min n (intervals.length - 1)) 0

/-- A back-off that has walked on from the first interval so many times. -/
def walked (intervals : List Nat) (n : Nat) : Backoff :=
  if intervals.isEmpty then {} else ⟨min n (intervals.length - 1), true⟩

lemma getElem?_window (hsome : intervals ≠ []) :
    intervals[min n (intervals.length - 1)]? = some (window intervals n) := by
  have hlength := List.length_pos_iff.2 hsome
  have hbound : min n (intervals.length - 1) < intervals.length := by omega
  rw [window, List.getD_eq_getElem?_getD, List.getElem?_eq_getElem hbound, Option.getD_some]

lemma walked_of_ne_nil (hsome : intervals ≠ []) :
    walked intervals n = ⟨min n (intervals.length - 1), true⟩ :=
  if_neg (by simpa using hsome)

lemma next_new (intervals : List Nat) :
    ({} : Backoff).next intervals = (window intervals 0, walked intervals 0) := by
  cases intervals with
  | nil => rfl
  | cons interval rest =>
    simp [next, window, walked]

lemma next_walked (intervals : List Nat) :
    (walked intervals n).next intervals = (window intervals (n + 1), walked intervals (n + 1)) := by
  cases intervals with
  | nil => simp [next, window, walked]
  | cons interval rest =>
    have hplace : min (min n rest.length + 1) rest.length = min (n + 1) rest.length := by omega
    simp [next, window, walked, hplace]

lemma again_walked (intervals : List Nat) :
    (walked intervals n).again intervals = (window intervals n, walked intervals n) := by
  by_cases hnone : intervals = []
  · subst hnone
    simp [again, next, window, walked]
  · simp [again, walked, hnone, getElem?_window n hnone]

end Walking

/-! ## Any calls -/

/-- The back-off after a call. -/
def afterCall (backoff : Backoff) : BackoffCall → Backoff
  | .next intervals => (backoff.next intervals).2
  | .again intervals => (backoff.again intervals).2
  | .reset => {}

/-- A new back-off after some calls, the first one first. -/
def afterCalls (calls : List BackoffCall) : Backoff := calls.foldl afterCall {}

/-- What was asked before a reset does not matter. -/
lemma afterCalls_reset (calls since : List BackoffCall) :
    afterCalls (calls ++ .reset :: since) = afterCalls since := by
  rw [afterCalls, List.foldl_append, List.foldl_cons]
  rfl

/-- A back-off that has begun stays where it is, unless it is reset or asked for the next interval
of a list that has one. -/
lemma foldl_afterCall_of_idle {since : List BackoffCall} (h : backoff.started = true)
    (hidle : ∀ call ∈ since, call ≠ .reset ∧ ∀ list, call = .next list → list = []) :
    since.foldl afterCall backoff = backoff := by
  induction since with
  | nil => rfl
  | cons call since ih =>
    obtain ⟨hcall, hsince⟩ := List.forall_mem_cons.1 hidle
    have hstays : backoff.afterCall call = backoff := by
      cases call with
      | next list => rw [hcall.2 list rfl, afterCall, next_nil]
      | again list => rw [afterCall, again_of_started h]
      | reset => exact absurd rfl hcall.1
    rw [List.foldl_cons, hstays]
    exact ih hsince

/-- Only the calls for the next interval lead on. -/
lemma foldl_afterCall_walked (hsome : intervals ≠ []) {since : List BackoffCall}
    (hsince : ∀ call ∈ since, call = .next intervals ∨ ∃ list, call = .again list) (n : Nat) :
    since.foldl afterCall (walked intervals n) =
      walked intervals (n + since.count (.next intervals)) := by
  induction since generalizing n with
  | nil => rfl
  | cons call since ih =>
    obtain ⟨hcall, hrest⟩ := List.forall_mem_cons.1 hsince
    rcases hcall with rfl | ⟨list, rfl⟩
    · rw [List.foldl_cons, afterCall, next_walked, ih hrest, List.count_cons_self]
      congr 1
      omega
    · have hstarted : (walked intervals n).started = true := by rw [walked_of_ne_nil n hsome]
      rw [List.foldl_cons, afterCall, again_of_started hstarted, ih hrest,
        List.count_cons_of_ne (by simp)]

/-! ## Since the last reset -/

/-- A call for a list without intervals changes nothing. -/
lemma afterCall_nil {call : BackoffCall} (h : call = .next [] ∨ call = .again [])
    (backoff : Backoff) : backoff.afterCall call = backoff := by
  rcases h with rfl | rfl
  · rfl
  · cases hstarted : backoff.started with
    | false => rw [afterCall, again_of_not_started hstarted, next_nil]
    | true => rw [afterCall, again_of_started hstarted]

lemma afterCall_started {call : BackoffCall} {list : List Nat} (hsome : list ≠ [])
    (h : call = .next list ∨ call = .again list) (backoff : Backoff) :
    (backoff.afterCall call).started = true := by
  rcases h with rfl | rfl
  · exact next_started hsome backoff
  · cases hstarted : backoff.started with
    | false => rw [afterCall, again_of_not_started hstarted, next_started hsome]
    | true => rw [afterCall, again_of_started hstarted, hstarted]

/-- Since the last reset there was a call with a list that is not empty. -/
def HasHandedOut (calls : List BackoffCall) : Prop :=
  ∃ before call list since, calls = before ++ call :: since ∧ .reset ∉ since ∧
    (call = .next list ∨ call = .again list) ∧ list ≠ []

lemma hasHandedOut_concat {calls : List BackoffCall} {call : BackoffCall} :
    HasHandedOut (calls ++ [call]) ↔
      (∃ list, (call = .next list ∨ call = .again list) ∧ list ≠ []) ∨
        call ≠ .reset ∧ HasHandedOut calls := by
  constructor
  · rintro ⟨before, other, list, since, hcalls, hreset, hother, hlist⟩
    rcases List.eq_nil_or_concat since with rfl | ⟨since, last, rfl⟩
    · obtain ⟨rfl, hlast⟩ := List.append_inj' hcalls rfl
      obtain rfl := (List.cons.inj hlast).1
      exact Or.inl ⟨list, hother, hlist⟩
    · rw [List.concat_eq_append] at hcalls hreset
      rw [← List.cons_append, ← List.append_assoc] at hcalls
      obtain ⟨rfl, hlast⟩ := List.append_inj' hcalls rfl
      obtain rfl := (List.cons.inj hlast).1
      rw [List.mem_append, List.mem_singleton, not_or] at hreset
      exact Or.inr ⟨Ne.symm hreset.2, before, other, list, since, rfl, hreset.1, hother, hlist⟩
  · rintro (⟨list, hcall, hlist⟩ | ⟨hcall, before, other, list, since, rfl, hreset, hother, hlist⟩)
    · exact ⟨calls, call, list, [], rfl, List.not_mem_nil, hcall, hlist⟩
    · refine ⟨before, other, list, since ++ [call], by simp, ?_, hother, hlist⟩
      rw [List.mem_append, List.mem_singleton, not_or]
      exact ⟨hreset, Ne.symm hcall⟩

/-- A back-off has begun if it has handed out an interval, and else it is as good as new. -/
lemma afterCalls_cases (calls : List BackoffCall) :
    HasHandedOut calls ∧ (afterCalls calls).started = true ∨
      ¬ HasHandedOut calls ∧ afterCalls calls = {} := by
  induction calls using List.reverseRecOn with
  | nil =>
    refine Or.inr ⟨?_, rfl⟩
    rintro ⟨before, call, list, since, hcalls, -⟩
    simp at hcalls
  | append_singleton calls call ih =>
    have hafter : afterCalls (calls ++ [call]) = (afterCalls calls).afterCall call := by
      simp [afterCalls]
    rw [hasHandedOut_concat, hafter]
    by_cases hgiven : ∃ list, (call = .next list ∨ call = .again list) ∧ list ≠ []
    · obtain ⟨list, hcall, hsome⟩ := hgiven
      exact Or.inl ⟨Or.inl ⟨list, hcall, hsome⟩, afterCall_started hsome hcall _⟩
    · by_cases hreset : call = .reset
      · subst hreset
        exact Or.inr ⟨not_or.2 ⟨hgiven, fun h => h.1 rfl⟩, rfl⟩
      · have hnil : call = .next [] ∨ call = .again [] := by
          cases call with
          | next list | again list => simpa using hgiven
          | reset => exact absurd rfl hreset
        rw [afterCall_nil hnil]
        rcases ih with ⟨hhanded, hstarted⟩ | ⟨hhanded, hnew⟩
        · exact Or.inl ⟨Or.inr ⟨hreset, hhanded⟩, hstarted⟩
        · exact Or.inr ⟨not_or.2 ⟨hgiven, fun h => hhanded h.2⟩, hnew⟩

/-- Calls that begin with the next interval of a list, and never ask for that of another. -/
lemma next_of_walk (hsome : intervals ≠ []) {since : List BackoffCall}
    (hsince : ∀ call ∈ since, call = .next intervals ∨ ∃ list, call = .again list)
    (hfirst : ∀ list, since.head? ≠ some (.again list)) :
    ((afterCalls since).next intervals).1 = window intervals (since.count (.next intervals)) := by
  cases since with
  | nil => rw [afterCalls, List.foldl_nil, next_new, List.count_nil]
  | cons call since =>
    obtain ⟨hcall, hrest⟩ := List.forall_mem_cons.1 hsince
    rcases hcall with rfl | ⟨list, rfl⟩
    · rw [afterCalls, List.foldl_cons, afterCall, next_new, foldl_afterCall_walked hsome hrest,
        next_walked, List.count_cons_self, Nat.zero_add]
    · exact absurd rfl (hfirst list)

/-- Whatever was asked of a back-off before, with whatever lists:

An empty list gives zero, and from any other list an interval is handed out: for the next one that
at the place to which the back-off comes, and for the same one again that at its place or the last
one.

If since a reset only one list was asked for its next interval, first of all and `k` times, then the
next one is that at place `k`, or the last one; how often intervals were asked for again, and out of
which lists, does not matter.

What a list has handed out as its next interval it hands out again, until there is a reset or
another list hands out its next one.

Asked again, a back-off that has handed out an interval since the last reset stays where it is, and
one that has not does what a new one does when it is asked for the next. -/
theorem intervals_are_handed_out_in_turn (calls : List BackoffCall) (intervals : List Nat) :
    ((afterCalls calls).next []).1 = 0 ∧ ((afterCalls calls).again []).1 = 0 ∧
    (intervals ≠ [] →
      intervals[((afterCalls calls).next intervals).2.index]? =
        some ((afterCalls calls).next intervals).1 ∧
      intervals[min ((afterCalls calls).again intervals).2.index (intervals.length - 1)]? =
        some ((afterCalls calls).again intervals).1 ∧
      (∀ since : List BackoffCall,
        (∀ call ∈ since, call = .next intervals ∨ ∃ list, call = .again list) →
        (∀ list, since.head? ≠ some (.again list)) →
        intervals[min (since.count (.next intervals)) (intervals.length - 1)]? =
          some ((afterCalls (calls ++ .reset :: since)).next intervals).1) ∧
      ∀ since : List BackoffCall,
        (∀ call ∈ since, call ≠ .reset ∧ ∀ list, call = .next list → list = []) →
        ((afterCalls (calls ++ .next intervals :: since)).again intervals).1 =
          ((afterCalls calls).next intervals).1) ∧
    (HasHandedOut calls → ((afterCalls calls).again intervals).2 = afterCalls calls) ∧
    (¬ HasHandedOut calls →
      (afterCalls calls).again intervals = ({} : Backoff).next intervals) := by
  refine ⟨rfl, again_nil _, fun hsome => ⟨getElem?_next hsome _, getElem?_again hsome _,
    fun since hsince hfirst => ?_, fun since hidle => ?_⟩, fun hhanded => ?_, fun hhanded => ?_⟩
  · rw [afterCalls_reset, next_of_walk hsome hsince hfirst]
    exact getElem?_window _ hsome
  · have hstarted := next_started hsome (afterCalls calls)
    have hstays : afterCalls (calls ++ .next intervals :: since) =
        ((afterCalls calls).next intervals).2 := by
      rw [afterCalls, List.foldl_append, List.foldl_cons]
      exact foldl_afterCall_of_idle hstarted hidle
    rw [hstays, again_of_started hstarted, getElem?_next hsome, Option.getD_some]
  · rcases afterCalls_cases calls with ⟨-, hstarted⟩ | ⟨hnone, -⟩
    · rw [again_of_started hstarted]
    · exact absurd hhanded hnone
  · rcases afterCalls_cases calls with ⟨hsome, -⟩ | ⟨-, hnew⟩
    · exact absurd hsome hhanded
    · rw [hnew, again_of_not_started rfl]

/-- With a reset in between, what was handed out last is not handed out again: it is forgotten. -/
theorem reset_forgets_latest_interval :
    ¬ ∀ (calls since : List BackoffCall) (intervals : List Nat), intervals ≠ [] →
      (∀ call ∈ since, ∀ list, call = .next list → list = []) →
      ((afterCalls (calls ++ .next intervals :: since)).again intervals).1 =
        ((afterCalls calls).next intervals).1 := by
  intro hagain
  have hlast := hagain [.next [900, 1800]] [.reset] [900, 1800] (by simp) (by simp)
  exact absurd hlast (by decide)

/-- A list of one interval was handed out, and asked for again when it had become longer. -/
def earlier : List BackoffCall := [.next [60], .again [60, 120]]

/-- Asked for the third time since a reset a list of three hands out its last interval, although a
shorter list was asked for in between.  Without the reset the list goes on at its second place, and
hands out the same again when the list has been empty for a while. -/
theorem intervals_of_changing_lists :
    ((afterCalls (earlier ++ .reset :: [.next [900, 1800, 3600], .again [60],
      .next [900, 1800, 3600]])).next [900, 1800, 3600]).1 = 3600 ∧
    ((afterCalls (earlier ++ .next [900, 1800, 3600] :: [.again [60], .next []])).again
      [900, 1800, 3600]).1 = ((afterCalls earlier).next [900, 1800, 3600]).1 ∧
    HasHandedOut earlier ∧ ((afterCalls earlier).again [900]).2 = afterCalls earlier ∧
    ¬ HasHandedOut (earlier ++ [.reset]) ∧
    (afterCalls (earlier ++ [.reset])).again [900] = (900, ⟨0, true⟩) := by
  have hhanded : HasHandedOut earlier :=
    ⟨[.next [60]], .again [60, 120], [60, 120], [], rfl, List.not_mem_nil, Or.inr rfl, by simp⟩
  have hreset : ¬ HasHandedOut (earlier ++ [.reset]) := by
    rw [hasHandedOut_concat]
    simp
  obtain ⟨-, -, hlist, -, -⟩ := intervals_are_handed_out_in_turn earlier [900, 1800, 3600]
  obtain ⟨-, -, -, hstays, -⟩ := intervals_are_handed_out_in_turn earlier [900]
  obtain ⟨-, -, -, -, hnew⟩ := intervals_are_handed_out_in_turn (earlier ++ [.reset]) [900]
  obtain ⟨-, -, hwalk, hagain⟩ := hlist (by simp)
  refine ⟨?_, hagain _ (by simp), hhanded, hstays hhanded, hreset, hnew hreset⟩
  have hthird := hwalk [.next [900, 1800, 3600], .again [60], .next [900, 1800, 3600]]
    (by simp) (by simp)
  exact (Option.some.inj hthird).symm

end Backoff

end DeviceStandby
