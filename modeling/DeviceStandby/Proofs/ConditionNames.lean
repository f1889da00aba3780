import DeviceStandby.Proofs.Masks
import DeviceStandby.Proofs.SplitTexts
import Mathlib.Data.List.TakeWhile

/-!
# Names of conditions in a text

A text of a configuration file names conditions with bars between them.  `Condition.namesIn` lists
the names without the blanks around them.  A text can be read exactly if it names nothing but
conditions, and then it covers the conditions that it names and is never empty
(`Condition.isSome_parse?_iff`, `Condition.covers_parse?`, `Condition.parse?_ne_zero`).

How a condition is written does not matter: neither blanks around a bar nor the case of letters
change what is named, and a text with a bar names what its two halves name
(`Condition.namesIn_bar`, `Condition.namesIn_of_letters`).
-/

namespace DeviceStandby

/-! ## Blanks -/

section Blanks

variable {blanks : List Char} (hblanks : ∀ c ∈ blanks, isBlank c = true)

include hblanks

lemma dropBlanks_blank_append (text : List Char) :
    dropBlanks (blanks ++ text) = dropBlanks text :=
  List.dropWhile_append_of_pos hblanks

lemma trimChars_blank_append (text : List Char) : trimChars (blanks ++ text) = trimChars text := by
  rw [trimChars, dropBlanks_blank_append hblanks, trimChars]

lemma trimChars_append_blank (text : List Char) : trimChars (text ++ blanks) = trimChars text := by
  have hreverse : ∀ c ∈ blanks.reverse, isBlank c = true :=
    fun c hc => hblanks c (List.mem_reverse.1 hc)
  have hnone : dropBlanks blanks = [] := List.dropWhile_eq_nil_iff.2 hblanks
  unfold trimChars
  cases hdropped : dropBlanks text with
  | nil =>
    have hall : dropBlanks (text ++ blanks) = [] := by
      unfold dropBlanks at hdropped hnone ⊢
      rw [List.dropWhile_append, hdropped, hnone]
      rfl
    rw [hall]
  | cons c rest =>
    have hback : dropBlanks (text ++ blanks) = (c :: rest) ++ blanks := by
      unfold dropBlanks at hdropped ⊢
      rw [List.dropWhile_append, hdropped]
      rfl
    rw [hback, List.reverse_append, dropBlanks_blank_append hreverse]

end Blanks

/-- Nothing is left of a text between its blanks if it consists of blanks. -/
lemma trimChars_eq_nil_iff {text : List Char} :
    trimChars text = [] ↔ ∀ c ∈ text, isBlank c = true := by
  rw [trimChars, List.reverse_eq_nil_iff, dropBlanks, List.dropWhile_eq_nil_iff]
  simp only [List.mem_reverse]
  constructor
  · intro hrest c hc
    rw [← List.takeWhile_append_dropWhile (p := isBlank) (l := text)] at hc
    rcases List.mem_append.1 hc with hfirst | hlater
    · exact List.mem_takeWhile_imp hfirst
    · exact hrest c hlater
  · exact fun hall c hc => hall c (List.dropWhile_subset _ hc)

/-! ## Letters -/

/-- Only capitals have another letter in lower case, and it is a letter too. -/
lemma toLower_cases (c : Char) :
    c.toLower = c ∨ 65 ≤ c.toNat ∧ c.toNat ≤ 90 ∧ c.toLower.toNat = c.toNat + 32 := by
  unfold Char.toLower
  split
  · rename_i hcapital
    have hleast : 65 ≤ c.val.toNat := hcapital.1
    have hgreatest : c.val.toNat ≤ 90 := hcapital.2
    refine Or.inr ⟨hleast, hgreatest, ?_⟩
    show (c.val + 32).toNat = c.val.toNat + 32
    have hshift : (32 : UInt32).toNat = 32 := rfl
    rw [UInt32.toNat_add]
    omega
  · exact Or.inl rfl

lemma isBlank_of_letter {c : Char} (hleast : 65 ≤ c.toNat) (hgreatest : c.toNat ≤ 122) :
    isBlank c = false := by
  simp only [isBlank, Bool.or_eq_false_iff, Bool.and_eq_false_iff, decide_eq_false_iff_not,
    beq_eq_false_iff_ne]
  omega

lemma isBlank_toLower (c : Char) : isBlank c.toLower = isBlank c := by
  rcases toLower_cases c with hsame | ⟨hleast, hgreatest, hlower⟩
  · rw [hsame]
  · rw [isBlank_of_letter (by omega) (by omega), isBlank_of_letter (by omega) (by omega)]

lemma toLower_eq_bar_iff {c : Char} : c.toLower = '|' ↔ c = '|' := by
  rcases toLower_cases c with hsame | ⟨-, hgreatest, hlower⟩
  · rw [hsame]
  · have hbar : ('|' : Char).toNat = 124 := rfl
    constructor
    · intro h
      rw [h] at hlower
      omega
    · intro h
      rw [h] at hgreatest
      omega

lemma dropBlanks_map_toLower (text : List Char) :
    dropBlanks (text.map Char.toLower) = (dropBlanks text).map Char.toLower := by
  have hsame : isBlank ∘ Char.toLower = isBlank := funext isBlank_toLower
  rw [dropBlanks, List.dropWhile_map, hsame, dropBlanks]

lemma trimChars_map_toLower (text : List Char) :
    trimChars (text.map Char.toLower) = (trimChars text).map Char.toLower := by
  rw [trimChars, dropBlanks_map_toLower, ← List.map_reverse, dropBlanks_map_toLower,
    ← List.map_reverse, trimChars]

lemma splitAt_map_toLower (text : List Char) :
    splitAt '|' (text.map Char.toLower) = (splitAt '|' text).map (List.map Char.toLower) := by
  induction text with
  | nil => rfl
  | cons c text ih =>
    by_cases hc : c = '|'
    · rw [List.map_cons, splitAt, if_pos (toLower_eq_bar_iff.2 hc), ih, splitAt, if_pos hc]
      rfl
    · obtain ⟨first, rest, hsplit⟩ := exists_splitAt '|' text
      rw [hsplit] at ih
      rw [splitAt_cons '|' hc hsplit, List.map_cons,
        splitAt_cons '|' (fun hbar => hc (toLower_eq_bar_iff.1 hbar)) ih]
      rfl

/-! ## Conditions -/

namespace Condition

/-- The names between the bars of a text, without the blanks around them. -/
def namesIn (text : String) : List String :=
  (splitAt '|' text.toList).map (fun part => String.ofList (trimChars part))

lemma exists_namesIn (text : String) : ∃ name, name ∈ namesIn text := by
  obtain ⟨first, rest, hsplit⟩ := exists_splitAt '|' text.toList
  exact ⟨_, by rw [namesIn, hsplit]; exact List.mem_cons_self⟩

/-- A text with a bar names what its halves name, whatever blanks are around the bar. -/
lemma namesIn_bar {before behind : String} (hbefore : ∀ c ∈ before.toList, isBlank c = true)
    (hbehind : ∀ c ∈ behind.toList, isBlank c = true) (left right : String) :
    namesIn (left ++ before ++ "|" ++ behind ++ right) = namesIn left ++ namesIn right := by
  have htext : (left ++ before ++ "|" ++ behind ++ right).toList =
      left.toList ++ before.toList ++ '|' :: (behind.toList ++ right.toList) := by
    simp [String.toList_append]
  have hnobar : ∀ blanks : List Char, (∀ c ∈ blanks, isBlank c = true) → '|' ∉ blanks :=
    fun blanks hblanks hbar => absurd (hblanks '|' hbar) (by decide)
  obtain ⟨init, last, hleft, hlonger⟩ := splitAt_behind (hnobar _ hbefore) left.toList
  obtain ⟨first, rest, hright⟩ := exists_splitAt '|' right.toList
  have hbehindSplit := splitAt_before (hnobar _ hbehind) hright
  rw [namesIn, htext, splitAt_append, hlonger, hbehindSplit, namesIn, hleft,
    namesIn, hright]
  simp only [List.map_append, List.map_cons, List.map_nil, trimChars_append_blank hbefore,
    trimChars_blank_append hbehind]

/-- Texts that differ in the case of letters only name the same in lower case. -/
lemma namesIn_of_letters {text other : String} (h : lowerAscii text = lowerAscii other) :
    (namesIn text).map lowerAscii = (namesIn other).map lowerAscii := by
  have hlower : ∀ text : String, (namesIn text).map lowerAscii = namesIn (lowerAscii text) := by
    intro text
    have htext : (lowerAscii text).toList = text.toList.map Char.toLower := String.toList_map
    rw [namesIn, namesIn, htext, splitAt_map_toLower, List.map_map, List.map_map]
    refine List.map_congr_left (fun part _ => String.toList_injective ?_)
    simp only [Function.comp_apply, lowerAscii, String.toList_map, String.toList_ofList,
      trimChars_map_toLower]
  rw [hlower, hlower, h]

lemma ofName?_cases {name : String} {condition : Mask} (h : ofName? name = some condition) :
    condition = day ∨ condition = night := by
  unfold ofName? at h
  dsimp only at h
  split_ifs at h
  · exact Or.inl (Option.some.inj h).symm
  · exact Or.inr (Option.some.inj h).symm

/-! ### Reading -/

section Reading

variable {text : String} {mask condition : Mask}

lemma mapM_eq_filterMap {α β : Type} (f : α → Option β) (list : List α) :
    list.mapM f = if ∀ x ∈ list, (f x).isSome = true then some (list.filterMap f) else none := by
  induction list with
  | nil => simp
  | cons x list ih =>
    rw [List.mapM_cons, ih]
    cases hx : f x with
    | none => simp [hx]
    | some y =>
      have hcons : (∀ z ∈ x :: list, (f z).isSome = true) ↔ ∀ z ∈ list, (f z).isSome = true := by
        rw [List.forall_mem_cons, hx]
        exact and_iff_right rfl
      simp only [hcons, List.filterMap_cons_some hx]
      split <;> rfl

/-- What is read from a text are the conditions that it names, if it names nothing else. -/
lemma parse?_eq (text : String) : parse? text =
    if ∀ name ∈ namesIn text, (ofName? name).isSome = true then
      some (((namesIn text).filterMap ofName?).foldl (· ||| ·) 0)
    else none := by
  have hnames : parse? text = ((namesIn text).mapM ofName?).map (·.foldl (· ||| ·) 0) := by
    rw [parse?, namesIn, List.mapM_map]
    rfl
  rw [hnames, mapM_eq_filterMap]
  split <;> rfl

lemma isSome_parse?_iff :
    (parse? text).isSome = true ↔ ∀ name ∈ namesIn text, (ofName? name).isSome = true := by
  rw [parse?_eq]
  split
  · rename_i hall
    simpa using hall
  · rename_i hall
    simpa using hall

/-- Either condition is a bit of its own. -/
lemma covers_eq_getLsbD (hcondition : condition = day ∨ condition = night) :
    ∃ i, ∀ set, covers set condition = set.getLsbD i := by
  have hbit : ∀ i < 2, ∀ set : Mask, covers set (BitVec.twoPow 32 i) = set.getLsbD i := by
    intro i hi set
    rw [covers, BitVec.and_twoPow]
    cases set.getLsbD i with
    | true => simp
    | false =>
      match i, hi with
      | 0, _ | 1, _ => decide
  rcases hcondition with rfl | rfl
  · exact ⟨0, hbit 0 (by omega)⟩
  · exact ⟨1, hbit 1 (by omega)⟩

lemma covers_or (hcondition : condition = day ∨ condition = night) (a b : Mask) :
    covers (a ||| b) condition = (covers a condition || covers b condition) := by
  obtain ⟨i, hbit⟩ := covers_eq_getLsbD hcondition
  rw [hbit, hbit, hbit, BitVec.getLsbD_or]

lemma covers_foldl (hcondition : condition = day ∨ condition = night) {masks : List Mask}
    (hmasks : ∀ mask ∈ masks, mask = day ∨ mask = night) (start : Mask) :
    covers (masks.foldl (· ||| ·) start) condition = true ↔
      covers start condition = true ∨ condition ∈ masks := by
  induction masks generalizing start with
  | nil => simp
  | cons mask masks ih =>
    have hsingle : covers mask condition = true ↔ condition = mask := by
      rcases hmasks mask List.mem_cons_self with rfl | rfl <;>
        rcases hcondition with rfl | rfl <;> decide
    rw [List.foldl_cons, ih (fun other hother => hmasks other (List.mem_cons_of_mem _ hother)),
      covers_or hcondition, Bool.or_eq_true, hsingle, List.mem_cons, or_assoc]

/-- What is read from a text covers the conditions that the text names. -/
lemma covers_parse? (hread : parse? text = some mask)
    (hcondition : condition = day ∨ condition = night) :
    covers mask condition = true ↔ ∃ name ∈ namesIn text, ofName? name = some condition := by
  rw [parse?_eq] at hread
  split at hread
  · obtain rfl := Option.some.inj hread
    have hmasks : ∀ mask ∈ (namesIn text).filterMap ofName?, mask = day ∨ mask = night := by
      intro mask hmem
      obtain ⟨name, -, hname⟩ := List.mem_filterMap.1 hmem
      exact ofName?_cases hname
    have hnone : covers 0 condition = false := by rcases hcondition with rfl | rfl <;> rfl
    rw [covers_foldl hcondition hmasks, hnone, List.mem_filterMap]
    simp
  · cases hread

/-- A text that can be read names at least one condition. -/
lemma parse?_ne_zero (hread : parse? text = some mask) : mask ≠ 0 := by
  rintro rfl
  obtain ⟨name, hname⟩ := exists_namesIn text
  have hall := isSome_parse?_iff.1 (by rw [hread]; rfl) name hname
  obtain ⟨condition, hcondition⟩ := Option.isSome_iff_exists.1 hall
  have hcases := ofName?_cases hcondition
  have hcovers := (covers_parse? hread hcases).2 ⟨name, hname, hcondition⟩
  rcases hcases with rfl | rfl <;> cases hcovers

end Reading

end Condition

end DeviceStandby
