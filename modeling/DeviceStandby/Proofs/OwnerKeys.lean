import DeviceStandby.Owner
import Mathlib.Tactic.Lemma
import Std.Data.String.ToInt

/-!
# Keys tell owners apart

The key of an owner is the number of the user, an underscore and the name.  A name may hold
anything, underscores and digits included, but a number holds no underscore: the first underscore of
a key is where the name begins, and so no two owners share a key (`recordKey_injective`).
-/

namespace DeviceStandby

/-- A list is cut in only one way in front of the first occurrence of an element. -/
lemma append_cons_inj_of_notMem {α : Type} {x : α} {a b c d : List α} (ha : x ∉ a) (hc : x ∉ c)
    (h : a ++ x :: b = c ++ x :: d) : a = c ∧ b = d := by
  induction a generalizing c with
  | nil =>
    cases c with
    | nil => simpa using h
    | cons y c => exact absurd (by simpa using (List.cons.inj h).1) (List.ne_of_not_mem_cons hc)
  | cons y a ih =>
    cases c with
    | nil => exact absurd (by simpa using (List.cons.inj h).1.symm) (List.ne_of_not_mem_cons ha)
    | cons z c =>
      obtain ⟨hyz, htail⟩ := List.cons.inj h
      obtain ⟨hac, hbd⟩ := ih (List.not_mem_of_not_mem_cons ha) (List.not_mem_of_not_mem_cons hc)
        htail
      exact ⟨by rw [hyz, hac], hbd⟩

lemma underscore_notMem_repr (number : Int) : '_' ∉ number.repr.toList := by
  cases number with
  | ofNat n => simp [Int.repr]
  | negSucc n => simp [Int.repr]

/-- Owners with the same key are the same. -/
lemma recordKey_injective {uid uid' : Uid} {name name' : String}
    (h : recordKey uid name = recordKey uid' name') : uid = uid' ∧ name = name' := by
  have hchars : uid.repr.toList ++ '_' :: name.toList
      = uid'.repr.toList ++ '_' :: name'.toList := by
    have := congrArg String.toList h
    simpa [recordKey, toString, String.toList_append] using this
  obtain ⟨huid, hname⟩ := append_cons_inj_of_notMem (underscore_notMem_repr uid)
    (underscore_notMem_repr uid') hchars
  exact ⟨Int.repr_injective (String.toList_inj.1 huid), String.toList_inj.1 hname⟩

lemma recordKey_inj {uid uid' : Uid} {name name' : String} :
    recordKey uid name = recordKey uid' name' ↔ uid = uid' ∧ name = name' :=
  ⟨recordKey_injective, fun ⟨huid, hname⟩ => by rw [huid, hname]⟩

end DeviceStandby
