import DeviceStandby.Number.Width
import Mathlib.Data.Nat.Digits.Defs
import Mathlib.Tactic.Lemma

/-!
# Numerals

A `Numeral` is a run of ASCII digits, at least one, and the number that they denote: the last digit
counts ones, the one before it tens, and so on.  Zeros in front do not change the number.
`decimal?_eq_some_iff` says that just these runs can be read, and as what; a reader of numbers of
some width reads a sign in front of them too (`Width.read?_eq_some_iff`).
-/

namespace DeviceStandby

/-- The value of an ASCII digit. -/
def digitValue (digit : Char) : Nat := digit.toNat - '0'.toNat

/-- A non-empty run of ASCII digits and the number that it denotes in decimal. -/
structure Numeral (digits : List Char) (number : Nat) : Prop where
  nonempty : digits ≠ []
  ascii : ∀ c ∈ digits, c.isDigit = true
  value : Nat.ofDigits 10 (digits.reverse.map digitValue) = number

lemma ofDigits_cons_reverse (digit : Char) (digits : List Char) :
    Nat.ofDigits 10 ((digit :: digits).reverse.map digitValue)
      = Nat.ofDigits 10 (digits.reverse.map digitValue)
        + 10 ^ digits.length * digitValue digit := by
  rw [List.reverse_cons, List.map_append, List.map_singleton, Nat.ofDigits_append,
    Nat.ofDigits_singleton, List.length_map, List.length_reverse]

lemma foldl_digits (digits : List Char) (start : Nat) :
    digits.foldl (fun number digit => 10 * number + (digit.toNat - '0'.toNat)) start
      = Nat.ofDigits 10 (digits.reverse.map digitValue) + 10 ^ digits.length * start := by
  induction digits generalizing start with
  | nil => simp
  | cons digit digits ih =>
    rw [List.foldl_cons, ih, ofDigits_cons_reverse, List.length_cons, digitValue]
    ring

/-- Just the numerals can be read. -/
theorem decimal?_eq_some_iff {digits : List Char} {number : Nat} :
    decimal? digits = some number ↔ Numeral digits number := by
  have hvalue := foldl_digits digits 0
  rw [Nat.mul_zero, Nat.add_zero] at hvalue
  unfold decimal?
  rw [hvalue]
  split
  case isTrue hbad =>
    refine ⟨nofun, fun h => ?_⟩
    rw [Bool.or_eq_true, Bool.not_eq_true'] at hbad
    rcases hbad with hempty | hother
    · exact absurd (List.isEmpty_iff.1 hempty) h.nonempty
    · rw [List.all_eq_true.2 h.ascii] at hother
      cases hother
  case isFalse hgood =>
    rw [Bool.or_eq_true, not_or, List.isEmpty_iff, Bool.not_eq_true', Bool.not_eq_false,
      List.all_eq_true] at hgood
    rw [Option.some.injEq]
    exact ⟨fun h => ⟨hgood.1, hgood.2, h⟩, fun h => h.value⟩

namespace Numeral

variable {c : Char} {digits rest : List Char} {number : Nat}

/-- A character that is no digit begins no numeral. -/
lemma isDigit_head (h : Numeral (c :: rest) number) : c.isDigit = true :=
  h.ascii c List.mem_cons_self

/-! ## Zeros in front -/

lemma cons_iff (hrest : rest ≠ []) :
    Numeral (c :: rest) number ↔ c.isDigit = true ∧
      ∃ value, Numeral rest value ∧ number = value + 10 ^ rest.length * digitValue c := by
  constructor
  · rintro ⟨-, hascii, rfl⟩
    obtain ⟨hc, hascii⟩ := List.forall_mem_cons.1 hascii
    exact ⟨hc, _, ⟨hrest, hascii, rfl⟩, ofDigits_cons_reverse c rest⟩
  · rintro ⟨hc, _, ⟨-, hascii, rfl⟩, rfl⟩
    exact ⟨List.cons_ne_nil _ _, List.forall_mem_cons.2 ⟨hc, hascii⟩, ofDigits_cons_reverse c rest⟩

lemma eq_zero_of_digitValue (hdigit : c.isDigit = true) (h : digitValue c = 0) : c = '0' := by
  simp only [Char.isDigit, Bool.and_eq_true, decide_eq_true_eq] at hdigit
  have hleast : '0'.toNat ≤ c.toNat := hdigit.1
  exact Char.toNat_inj.1 (Nat.le_antisymm (Nat.sub_eq_zero_iff_le.1 h) hleast)

/-- With zeros in front a numeral denotes what it denotes without them. -/
lemma zeros (h : Numeral digits number) (count : Nat) :
    Numeral (List.replicate count '0' ++ digits) number := by
  induction count with
  | zero => exact h
  | succ count ih =>
    rw [List.replicate_succ, List.cons_append]
    exact (cons_iff ih.nonempty).2 ⟨by decide, number, ih, rfl⟩

/-- A number of so many digits at most can be written with more of them only by zeros in front. -/
lemma exists_zeros (width : Nat) (hwidth : 0 < width) (h : Numeral digits number)
    (hnumber : number < 10 ^ width) :
    ∃ count short, digits = List.replicate count '0' ++ short ∧ Numeral short number ∧
      short.length ≤ width := by
  induction digits with
  | nil => exact absurd rfl h.nonempty
  | cons c rest ih =>
    by_cases hshort : (c :: rest).length ≤ width
    · exact ⟨0, c :: rest, rfl, h, hshort⟩
    · have hlong : width ≤ rest.length := by
        rw [List.length_cons] at hshort
        omega
      obtain ⟨hdigit, value, hvalue, hsum⟩ :=
        (cons_iff (List.ne_nil_of_length_pos (hwidth.trans_le hlong))).1 h
      -- Any other digit here would make the number too large.
      have hzero : digitValue c = 0 := by
        by_contra hnonzero
        have hpower : 10 ^ width ≤ 10 ^ rest.length := Nat.pow_le_pow_right (by decide) hlong
        have hlarge : 10 ^ rest.length ≤ 10 ^ rest.length * digitValue c :=
          Nat.le_mul_of_pos_right _ (Nat.pos_of_ne_zero hnonzero)
        omega
      rw [hzero, Nat.mul_zero, Nat.add_zero] at hsum
      subst hsum
      obtain ⟨count, short, rfl, hnumeral, hlength⟩ := ih hvalue
      obtain rfl := eq_zero_of_digitValue hdigit hzero
      exact ⟨count + 1, short, rfl, hnumeral, hlength⟩

end Numeral

namespace Width

variable {width : Width} (hleast : width.least = 0)

include hleast

lemma check?_natCast {value : Nat} {number : Int} :
    width.check? value = some number ↔ (value : Int) ≤ width.greatest ∧ number = value := by
  have hholds : width.holds value = true ↔ (value : Int) ≤ width.greatest := by
    simp [holds, hleast]
  unfold check?
  split
  case isTrue hfits =>
    rw [Option.some.injEq, and_iff_right (hholds.1 hfits), eq_comm]
  case isFalse hlarge =>
    exact ⟨nofun, fun h => absurd (hholds.2 h.1) hlarge⟩

/-- Where a width has no negative numbers, just the numerals of its numbers can be read, with or
without a plus sign. -/
theorem read?_eq_some_iff {text : List Char} {number : Int} :
    width.read? text = some number ↔
      ∃ digits value, (text = digits ∨ text = '+' :: digits) ∧ Numeral digits value ∧
        (value : Int) ≤ width.greatest ∧ number = value := by
  have hread : ∀ digits : List Char,
      (decimal? digits).bind (fun value => width.check? value) = some number ↔
        ∃ value, Numeral digits value ∧ (value : Int) ≤ width.greatest ∧ number = value := by
    intro digits
    simp only [Option.bind_eq_some_iff, decimal?_eq_some_iff, check?_natCast hleast]
  unfold read?
  split
  case h_1 digits =>
    rw [hread]
    constructor
    · rintro ⟨value, h⟩
      exact ⟨digits, value, Or.inr rfl, h⟩
    · rintro ⟨_, value, rfl | htext, hnumeral, h⟩
      · exact absurd hnumeral.isDigit_head (by decide)
      · obtain rfl := (List.cons.inj htext).2
        exact ⟨value, hnumeral, h⟩
  case h_2 digits =>
    rw [hleast, if_neg (Int.lt_irrefl 0)]
    refine ⟨nofun, ?_⟩
    rintro ⟨_, value, rfl | htext, hnumeral, -⟩
    · exact absurd hnumeral.isDigit_head (by decide)
    · exact absurd (List.cons.inj htext).1 (by decide)
  case h_3 hplus _ =>
    rw [hread]
    constructor
    · rintro ⟨value, h⟩
      exact ⟨text, value, Or.inl rfl, h⟩
    · rintro ⟨digits, value, rfl | rfl, h⟩
      · exact ⟨value, h⟩
      · exact absurd rfl (hplus digits)

end Width

end DeviceStandby
