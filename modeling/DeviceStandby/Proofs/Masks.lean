import DeviceStandby.Exemption.Record
import Mathlib.Data.List.Nodup
import Mathlib.Tactic.Lemma

/-!
# Masks as sets of bits

Every fact about masks is reduced to single bits: a mask is known by its bits
(`BitVec.eq_of_getLsbD_eq`), and here is which bits the operations on masks have.  The mask of some
entries has the bits of their places (`getLsbD_entriesMask`), so it depends on nothing but these,
and it is empty only without entries as long as the places are those of kinds.
-/

namespace DeviceStandby

/-! ## The operations on masks -/

namespace Mask

lemma eq_zero_iff {mask : Mask} : mask = 0 ↔ ∀ i, mask.getLsbD i = false := by
  constructor
  · rintro rfl i
    exact BitVec.getLsbD_zero
  · intro h
    exact BitVec.eq_of_getLsbD_eq (fun i _ => by rw [h i]; exact BitVec.getLsbD_zero.symm)

lemma getLsbD_bit (index i : Nat) :
    (bit index).getLsbD i = (decide (i < 32) && decide (index = i)) := by
  unfold bit
  split
  case isTrue h =>
    rw [BitVec.getLsbD_twoPow]
    grind
  case isFalse h =>
    have hne : ¬ (i < 32 ∧ index = i) := by omega
    simpa using hne

lemma meets_iff {a b : Mask} : a.meets b = true ↔ ∃ i, a.getLsbD i = true ∧ b.getLsbD i = true := by
  rw [meets, bne_iff_ne, ne_eq, eq_zero_iff, Classical.not_forall]
  simp only [BitVec.getLsbD_and, Bool.not_eq_false, Bool.and_eq_true]

/-- A mask meets the mask of one place if it has the bit. -/
lemma meets_bit (mask : Mask) (index : Nat) : mask.meets (bit index) = mask.getLsbD index := by
  rw [Bool.eq_iff_iff, meets_iff]
  constructor
  · rintro ⟨i, hmask, hbit⟩
    rw [getLsbD_bit] at hbit
    obtain rfl : index = i := by simpa using (Bool.and_eq_true_iff.1 hbit).2
    exact hmask
  · intro h
    have hlt : index < 32 := BitVec.lt_of_getLsbD h
    exact ⟨index, h, by simp [getLsbD_bit, hlt]⟩

lemma getLsbD_without (mask removed : Mask) (i : Nat) :
    (mask.without removed).getLsbD i = (mask.getLsbD i && !removed.getLsbD i) := by
  rw [without, BitVec.getLsbD_and, BitVec.getLsbD_not]
  by_cases hi : i < 32
  · simp [hi]
  · simp [BitVec.getLsbD_of_ge mask i (by omega)]

end Mask

/-! ## The kinds -/

lemma Resource.index_mem (kind : Resource) : 1 ≤ kind.index ∧ kind.index ≤ 7 := by
  cases kind <;> decide

/-- Different kinds have different places. -/
lemma Resource.index_injective {kind other : Resource} (h : kind.index = other.index) :
    kind = other := by
  have hsame : ofIndex? kind.index = ofIndex? other.index := by rw [h]
  simpa using hsame

/-- The mask of all kinds has their places. -/
lemma Mask.getLsbD_known {i : Nat} : known.getLsbD i = true ↔ 1 ≤ i ∧ i ≤ 7 := by
  constructor
  · intro h
    have hlt : i < 32 := BitVec.lt_of_getLsbD h
    have hall : ∀ j : Fin 32, known.getLsbD j = true → 1 ≤ j.val ∧ j.val ≤ 7 := by decide
    exact hall ⟨i, hlt⟩ h
  · intro h
    have hall : ∀ j : Fin 8, 1 ≤ j.val → known.getLsbD j = true := by decide
    exact hall ⟨i, by omega⟩ h.1

lemma Mask.mem_kinds {mask : Mask} {kind : Resource} :
    kind ∈ mask.kinds ↔ mask.getLsbD kind.index = true := by
  rw [kinds, List.mem_filter, Resource.bit, meets_bit]
  exact and_iff_right (Resource.mem_all kind)

/-! ## The mask of some entries -/

/-- A union of bits has a bit if it was there before, or if something in the list has its place. -/
lemma getLsbD_foldl_bit {α : Type} (place : α → Nat) (list : List α) (mask : Mask) (i : Nat) :
    (list.foldl (fun mask x => mask ||| Mask.bit (place x)) mask).getLsbD i
      = (mask.getLsbD i || (decide (i < 32) && decide (i ∈ list.map place))) := by
  induction list generalizing mask with
  | nil => simp
  | cons x rest ih =>
    rw [List.foldl_cons, ih, BitVec.getLsbD_or, Mask.getLsbD_bit, Bool.or_assoc,
      ← Bool.and_or_distrib_left]
    simp [eq_comm]

lemma Mask.getLsbD_foldl_bit_zero {α : Type} (place : α → Nat) (list : List α) (i : Nat) :
    (list.foldl (fun mask x => mask ||| Mask.bit (place x)) (0 : Mask)).getLsbD i
      = (decide (i < 32) && decide (i ∈ list.map place)) := by
  rw [getLsbD_foldl_bit, show (0 : Mask).getLsbD i = false from BitVec.getLsbD_zero,
    Bool.false_or]

/-- The mask of some entries has the bits of their places. -/
lemma getLsbD_entriesMask (entries : List Entry) (i : Nat) :
    (entriesMask entries).getLsbD i
      = (decide (i < 32) && decide (i ∈ entries.map Entry.index)) :=
  Mask.getLsbD_foldl_bit_zero Entry.index entries i

lemma getLsbD_entriesMask_of_mem {entries : List Entry} {entry : Entry} (hmem : entry ∈ entries)
    (hindex : entry.index < 32) : (entriesMask entries).getLsbD entry.index = true := by
  rw [getLsbD_entriesMask, decide_eq_true hindex, decide_eq_true (List.mem_map_of_mem hmem),
    Bool.and_self]

end DeviceStandby
