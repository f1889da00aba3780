import DeviceStandby.Text.Blank
import Mathlib.Tactic.Lemma

/-!
# Texts that are split at a separator

A text is split at each of its separators and nowhere else.  None of the parts holds one, and with
separators between them the parts make the text again; there is no other list of parts that does
(`splitAt_eq_iff`).
-/

namespace DeviceStandby

variable (separator : Char)

lemma exists_splitAt (text : List Char) : ∃ first rest, splitAt separator text = first :: rest := by
  cases text with
  | nil => exact ⟨[], [], rfl⟩
  | cons c text =>
    unfold splitAt
    split
    · exact ⟨[], _, rfl⟩
    · split <;> exact ⟨_, _, rfl⟩

/-- A character that does not separate belongs to the first part. -/
lemma splitAt_cons {c : Char} (hc : c ≠ separator) {text first : List Char}
    {rest : List (List Char)} (h : splitAt separator text = first :: rest) :
    splitAt separator (c :: text) = (c :: first) :: rest := by
  rw [splitAt, if_neg hc, h]

/-- A text is split at each of its separators. -/
lemma splitAt_append (front back : List Char) :
    splitAt separator (front ++ separator :: back) =
      splitAt separator front ++ splitAt separator back := by
  induction front with
  | nil => simp [splitAt]
  | cons c front ih =>
    by_cases hc : c = separator
    · rw [List.cons_append, splitAt, if_pos hc, ih, splitAt, if_pos hc, List.cons_append]
    · obtain ⟨first, rest, hfront⟩ := exists_splitAt separator front
      rw [hfront] at ih
      rw [List.cons_append, splitAt_cons separator hc ih, splitAt_cons separator hc hfront]
      rfl

variable {separator}

/-- What stands before a text without separating anything belongs to its first part. -/
lemma splitAt_before {before text first : List Char} {rest : List (List Char)}
    (hbefore : separator ∉ before) (h : splitAt separator text = first :: rest) :
    splitAt separator (before ++ text) = (before ++ first) :: rest := by
  induction before with
  | nil => exact h
  | cons c before ih =>
    rw [List.mem_cons, not_or] at hbefore
    exact splitAt_cons separator (Ne.symm hbefore.1) (ih hbefore.2)

/-- What stands behind a text without separating anything belongs to its last part. -/
lemma splitAt_behind {behind : List Char} (hbehind : separator ∉ behind) (text : List Char) :
    ∃ init last, splitAt separator text = init ++ [last] ∧
      splitAt separator (text ++ behind) = init ++ [last ++ behind] := by
  induction text with
  | nil =>
    have halone : splitAt separator (behind ++ []) = [behind ++ []] := splitAt_before hbehind rfl
    rw [List.append_nil] at halone
    exact ⟨[], [], rfl, halone⟩
  | cons c text ih =>
    obtain ⟨init, last, hsplit, hlonger⟩ := ih
    by_cases hc : c = separator
    · refine ⟨[] :: init, last, ?_, ?_⟩
      · rw [splitAt, if_pos hc, hsplit, List.cons_append]
      · rw [List.cons_append, splitAt, if_pos hc, hlonger, List.cons_append]
    · cases init with
      | nil =>
        exact ⟨[], c :: last, splitAt_cons separator hc hsplit, splitAt_cons separator hc hlonger⟩
      | cons first init =>
        exact ⟨(c :: first) :: init, last, splitAt_cons separator hc hsplit,
          splitAt_cons separator hc hlonger⟩

/-! ## The parts of a text -/

/-- A text without a separator is a single part. -/
lemma splitAt_of_notMem {text : List Char} (h : separator ∉ text) :
    splitAt separator text = [text] := by
  simpa using splitAt_before h (show splitAt separator [] = [[]] from rfl)

/-- With separators between them the parts make the text again. -/
lemma intercalate_splitAt (text : List Char) :
    List.intercalate [separator] (splitAt separator text) = text := by
  induction text with
  | nil => rfl
  | cons c text ih =>
    obtain ⟨first, rest, hsplit⟩ := exists_splitAt separator text
    rw [hsplit] at ih
    by_cases hc : c = separator
    · rw [splitAt, if_pos hc, hsplit, List.intercalate_cons_cons, ih, hc]
      rfl
    · rw [splitAt_cons separator hc hsplit]
      cases rest with
      | nil =>
        rw [List.intercalate_singleton] at ih ⊢
        rw [ih]
      | cons second rest =>
        rw [List.intercalate_cons_cons] at ih ⊢
        rw [← ih]
        rfl

lemma notMem_of_mem_splitAt {text part : List Char} (h : part ∈ splitAt separator text) :
    separator ∉ part := by
  induction text generalizing part with
  | nil =>
    obtain rfl := List.mem_singleton.1 h
    exact List.not_mem_nil
  | cons c text ih =>
    by_cases hc : c = separator
    · rw [splitAt, if_pos hc] at h
      rcases List.mem_cons.1 h with rfl | hmem
      · exact List.not_mem_nil
      · exact ih hmem
    · obtain ⟨first, rest, hsplit⟩ := exists_splitAt separator text
      rw [splitAt_cons separator hc hsplit] at h
      rw [hsplit] at ih
      rcases List.mem_cons.1 h with rfl | hmem
      · exact List.not_mem_cons_of_ne_of_not_mem (Ne.symm hc) (ih List.mem_cons_self)
      · exact ih (List.mem_cons_of_mem _ hmem)

lemma splitAt_intercalate {parts : List (List Char)} (hsome : parts ≠ [])
    (hparts : ∀ part ∈ parts, separator ∉ part) :
    splitAt separator (List.intercalate [separator] parts) = parts := by
  induction parts with
  | nil => exact absurd rfl hsome
  | cons first rest ih =>
    obtain ⟨hfirst, hrest⟩ := List.forall_mem_cons.1 hparts
    cases rest with
    | nil => rw [List.intercalate_singleton, splitAt_of_notMem hfirst]
    | cons second rest =>
      rw [List.intercalate_cons_cons, List.append_assoc, List.singleton_append, splitAt_append,
        splitAt_of_notMem hfirst, ih (List.cons_ne_nil _ _) hrest]
      rfl

/-- The parts of a text are the one way to write it as parts that hold no separator, with separators
between them. -/
theorem splitAt_eq_iff {text : List Char} {parts : List (List Char)} :
    splitAt separator text = parts ↔
      parts ≠ [] ∧ (∀ part ∈ parts, separator ∉ part) ∧
        text = List.intercalate [separator] parts := by
  constructor
  · rintro rfl
    obtain ⟨first, rest, hsplit⟩ := exists_splitAt separator text
    exact ⟨by rw [hsplit]; exact List.cons_ne_nil _ _, fun part hmem => notMem_of_mem_splitAt hmem,
      (intercalate_splitAt text).symm⟩
  · rintro ⟨hsome, hparts, rfl⟩
    exact splitAt_intercalate hsome hparts

end DeviceStandby
