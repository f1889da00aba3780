import DeviceStandby.Config.Version
import DeviceStandby.Proofs.Numerals
import DeviceStandby.Proofs.SplitTexts
import Mathlib.Data.List.Forall2

/-!
# Versions as texts, and their order

A version is written as four numerals with points between them, and nothing else can be read as one
(`Version.parse?_eq_some_iff`).  Versions are ordered by their numbers, as lists of numbers are
(`Version.compare_eq_lt_iff`).

The order of texts is that of the versions which they denote, with all other texts below.  So all
texts can be compared and the comparison is transitive, but many texts are equal in it without being
the same (`Version.versions_are_read_and_ordered`).
-/

namespace DeviceStandby

/-- A function that may fail makes a list of another if it makes each element of the other. -/
lemma mapM_eq_some_iff {α β : Type} {f : α → Option β} {list : List α} {made : List β} :
    list.mapM f = some made ↔ List.Forall₂ (fun x y => f x = some y) list made := by
  induction list generalizing made with
  | nil => simp [eq_comm]
  | cons x list ih =>
    rw [List.mapM_cons]
    cases made with
    | nil => cases hx : f x <;> cases hlist : list.mapM f <;> simp
    | cons y made =>
      rw [List.forall₂_cons, ← ih]
      cases hx : f x <;> cases hlist : list.mapM f <;> simp

/-- A comparison of all texts, or of whatever else, in which different ones may be equal. -/
structure TotalPreorder {α : Type} (compare : α → α → Ordering) : Prop where
  refl : ∀ a, compare a a = .eq
  swap : ∀ a b, compare b a = (compare a b).swap
  antisymm : ∀ a b, (compare a b).isLE = true → (compare b a).isLE = true → compare a b = .eq
  trans : ∀ a b c, (compare a b).isLE = true → (compare b c).isLE = true →
    (compare a c).isLE = true
  total : ∀ a b, (compare a b).isLE = true ∨ (compare b a).isLE = true

namespace Version

/-! ## Reading -/

/-- A number of a version as it is written, zeros in front included. -/
structure IsPart (digits : List Char) (number : Nat) : Prop where
  numeral : Numeral digits number
  fits : number < 2 ^ 32

/-- A version as it is written. -/
def Written (version : Version) (text : List Char) : Prop :=
  ∃ first second third fourth : List Char,
    text = first ++ '.' :: second ++ '.' :: third ++ '.' :: fourth ∧
    IsPart first version.first ∧ IsPart second version.second ∧ IsPart third version.third ∧
    IsPart fourth version.fourth

variable {text : String} {version : Version} {digits : List Char} {number : Nat}

lemma part?_eq_some_iff : part? digits = some number ↔ IsPart digits number := by
  unfold part?
  rw [Option.bind_eq_some_iff]
  constructor
  · rintro ⟨value, hread, hsome⟩
    split at hsome
    case isTrue hle =>
      obtain rfl := Option.some.inj hsome
      exact ⟨decimal?_eq_some_iff.1 hread, Nat.lt_succ_of_le hle⟩
    case isFalse => cases hsome
  · intro h
    exact ⟨number, decimal?_eq_some_iff.2 h.numeral, if_pos (Nat.le_of_lt_succ h.fits)⟩

/-- No point stands in a part, because a point is no digit. -/
lemma IsPart.point_notMem (h : IsPart digits number) : '.' ∉ digits :=
  fun hmem => absurd (h.numeral.ascii '.' hmem) (by decide)

lemma parse?_eq_some_iff_mapM :
    parse? text = some version ↔ (splitAt '.' text.toList).mapM part? = some version.parts := by
  obtain ⟨first, second, third, fourth⟩ := version
  unfold parse?
  split
  case h_1 hparts => simp [hparts, parts]
  case h_2 hother => exact ⟨nofun, fun hparts => absurd hparts (hother _ _ _ _)⟩

/-- Just what is written as a version can be read, and it is read as that version. -/
theorem parse?_eq_some_iff : parse? text = some version ↔ version.Written text.toList := by
  rw [parse?_eq_some_iff_mapM, mapM_eq_some_iff]
  simp only [part?_eq_some_iff]
  constructor
  · intro h
    obtain ⟨-, -, htext⟩ := splitAt_eq_iff.1 (Eq.refl (splitAt '.' text.toList))
    revert h htext
    generalize splitAt '.' text.toList = pieces
    rintro (_ | ⟨hfirst, _ | ⟨hsecond, _ | ⟨hthird, _ | ⟨hfourth, _ | _⟩⟩⟩⟩) htext
    exact ⟨_, _, _, _, by simpa using htext, hfirst, hsecond, hthird, hfourth⟩
  · rintro ⟨first, second, third, fourth, htext, hfirst, hsecond, hthird, hfourth⟩
    have hsplit : splitAt '.' text.toList = [first, second, third, fourth] := by
      refine splitAt_eq_iff.2 ⟨List.cons_ne_nil _ _, ?_, by simpa using htext⟩
      simp [hfirst.point_notMem, hsecond.point_notMem, hthird.point_notMem, hfourth.point_notMem]
    rw [hsplit]
    exact .cons hfirst (.cons hsecond (.cons hthird (.cons hfourth .nil)))

/-! ## Order -/

section Order

variable {a b : Version}

/-- Versions are ordered by their numbers, the first one first. -/
theorem compare_eq_lt_iff : a.compare b = .lt ↔ a.parts < b.parts := by
  simp only [compare, Ordering.then_eq_lt, Nat.compare_eq_lt, Nat.compare_eq_eq, parts,
    List.cons_lt_cons_iff, List.not_lt_nil, and_false, or_false]

lemma compare_eq_eq_iff : a.compare b = .eq ↔ a = b := by
  cases a
  cases b
  simp [compare, Ordering.then_eq_eq]

end Order

instance : Std.TransCmp Version.compare :=
  inferInstanceAs (Std.TransCmp (compareLex (compareOn first)
    (compareLex (compareOn second) (compareLex (compareOn third) (compareOn fourth)))))

instance : Std.TransCmp compareTexts where
  eq_swap {a b} := by
    unfold compareTexts
    cases parse? a <;> cases parse? b
    · rfl
    · rfl
    · rfl
    · exact (inferInstance : Std.OrientedCmp Version.compare).eq_swap
  isLE_trans {a b c} := by
    unfold compareTexts
    -- What is no version is below all else, so only three versions are left to compare.
    cases parse? a <;> cases parse? b <;> cases parse? c <;> simp
    exact Std.TransCmp.isLE_trans

/-- A comparison that is oriented and transitive is a preorder in which all can be compared. -/
lemma totalPreorder_compareTexts : TotalPreorder compareTexts where
  refl _ := Std.ReflCmp.compare_self
  swap _ _ := Std.OrientedCmp.eq_swap
  antisymm _ _ hab hba := Std.OrientedCmp.isLE_antisymm hab hba
  trans _ _ _ := Std.TransCmp.isLE_trans
  total a b := by
    have hswap : compareTexts b a = (compareTexts a b).swap := Std.OrientedCmp.eq_swap
    rw [hswap]
    cases compareTexts a b <;> decide

section Texts

variable {a b : String} {version other : Version}

/-- Texts of versions are ordered as the versions are. -/
lemma compareTexts_of_parse? (ha : parse? a = some version) (hb : parse? b = some other) :
    compareTexts a b = version.compare other := by
  unfold compareTexts
  rw [ha, hb]

lemma compareTexts_of_none_of_some (ha : parse? a = none) (hb : parse? b = some other) :
    compareTexts a b = .lt := by
  unfold compareTexts
  rw [ha, hb]

lemma compareTexts_of_none_of_none (ha : parse? a = none) (hb : parse? b = none) :
    compareTexts a b = .eq := by
  unfold compareTexts
  rw [ha, hb]

lemma newer_eq_or_eq : newer a b = a ∨ newer a b = b := by
  unfold newer
  split
  · exact Or.inr rfl
  · exact Or.inl rfl

lemma newer_of_eq (h : compareTexts a b = .eq) : newer a b = a := by
  unfold newer
  rw [h]
  rfl

/-- The newer of two texts is below neither. -/
lemma newer_not_lt : compareTexts (newer a b) a ≠ .lt ∧ compareTexts (newer a b) b ≠ .lt := by
  unfold newer
  split
  case isTrue hlt =>
    rw [totalPreorder_compareTexts.swap a b, hlt, totalPreorder_compareTexts.refl b]
    decide
  case isFalse hle => exact ⟨by simp [totalPreorder_compareTexts.refl a], hle⟩

end Texts

/-- Just what is written as a version is read, as the version which it denotes.  All texts can be
compared; versions compare by their numbers, and every other text is below them and equal to every
other such text.  The newer of two texts is one of them and is below neither, and if they are equal
it is the first one. -/
theorem versions_are_read_and_ordered :
    (∀ (text : String) (version : Version),
      parse? text = some version ↔ version.Written text.toList) ∧
      TotalPreorder compareTexts ∧
      (∀ (a b : String) (version other : Version),
        parse? a = some version → parse? b = some other →
          (compareTexts a b = .lt ↔ version.parts < other.parts) ∧
            (compareTexts a b = .eq ↔ version = other)) ∧
      (∀ (a b : String) (other : Version),
        parse? a = none → parse? b = some other → compareTexts a b = .lt) ∧
      (∀ a b : String, parse? a = none → parse? b = none → compareTexts a b = .eq) ∧
      ∀ a b : String, (newer a b = a ∨ newer a b = b) ∧
        compareTexts (newer a b) a ≠ .lt ∧ compareTexts (newer a b) b ≠ .lt ∧
          (compareTexts a b = .eq → newer a b = a) := by
  refine ⟨fun _ _ => parse?_eq_some_iff, totalPreorder_compareTexts, ?_,
    fun _ _ _ => compareTexts_of_none_of_some, fun _ _ => compareTexts_of_none_of_none,
    fun _ _ => ⟨newer_eq_or_eq, newer_not_lt.1, newer_not_lt.2, newer_of_eq⟩⟩
  intro a b version other ha hb
  rw [compareTexts_of_parse? ha hb]
  exact ⟨compare_eq_lt_iff, compare_eq_eq_iff⟩

/-- Zeros in front do not count, ten is more than nine, a fifth number makes a text no version, and
of two texts that are no versions the first one is kept. -/
theorem ten_is_newer_than_nine :
    Written ⟨1, 0, 0, 10⟩ "01.0.0.0010".toList ∧
      compareTexts "1.0.0.9" "01.0.0.0010" = .lt ∧
      compareTexts "1.0.0.10.0" "1.0.0.9" = .lt ∧
      compareTexts "latest" "1.0.0.10.0" = .eq ∧ newer "latest" "1.0.0.10.0" = "latest" := by
  obtain ⟨hread, -, hvalid, hmixed, hinvalid, hnewer⟩ := versions_are_read_and_ordered
  have hnine : parse? "1.0.0.9" = some ⟨1, 0, 0, 9⟩ := by decide +kernel
  have hten : parse? "01.0.0.0010" = some ⟨1, 0, 0, 10⟩ := by decide +kernel
  have hlong : parse? "1.0.0.10.0" = none := by decide +kernel
  have hlatest : parse? "latest" = none := by decide +kernel
  have hequal := hinvalid "latest" "1.0.0.10.0" hlatest hlong
  exact ⟨(hread _ _).1 hten, (hvalid _ _ _ _ hnine hten).1.2 (by decide),
    hmixed _ _ _ hlong hnine, hequal, (hnewer _ _).2.2.2 hequal⟩

end Version

end DeviceStandby
