import DeviceStandby.Text.Utf8
import Mathlib.Data.List.Forall2
import Mathlib.Tactic.Lemma
import Mathlib.Tactic.SplitIfs

/-!
# Reading UTF-8 undoes writing it

A text is read from the bytes that spell it in UTF-8, and from no others
(`Utf8.decode?_eq_some_iff`); how a character is spelled is what the core library says
(`String.utf8EncodeChar`).

Characters are spelled in one to four bytes.  The first byte tells how many follow and in which
ranges, and for each length these ranges are just what the code points of that length come to
(`Utf8.spelled_two`, `Utf8.spelled_three`, `Utf8.spelled_four`): overlong forms, surrogates and what
lies beyond the last code point are out of them.
-/

namespace DeviceStandby.Utf8

/-! ## The bytes that follow -/

/-- The bytes lie in the ranges, one by one. -/
def Follow (ranges : List (Nat × Nat)) (bytes : List UInt8) : Prop :=
  List.Forall₂ (fun range byte => range.1 ≤ byte.toNat ∧ byte.toNat ≤ range.2) ranges bytes

/-- A code point with the value bits of the following bytes behind it. -/
def extended (code : Nat) (bytes : List UInt8) : Nat :=
  bytes.foldl (fun code byte => code * 0x40 + byte.toNat % 0x40) code

lemma within_iff {low high : Nat} {byte : UInt8} :
    within low high byte = true ↔ low ≤ byte.toNat ∧ byte.toNat ≤ high := by
  simp [within]

lemma takeFollowers_append {ranges : List (Nat × Nat)} {follow : List UInt8}
    (h : Follow ranges follow) (code : Nat) (rest : List UInt8) :
    takeFollowers code ranges (follow ++ rest) = (some (extended code follow), rest) := by
  induction h generalizing code with
  | nil => cases rest <;> rfl
  | @cons range byte ranges follow hbyte _ ih =>
    rw [List.cons_append, takeFollowers, if_pos (within_iff.2 hbyte), ih]
    rfl

lemma exists_follow {code value : Nat} {ranges : List (Nat × Nat)} {bytes rest : List UInt8}
    (h : takeFollowers code ranges bytes = (some value, rest)) :
    ∃ follow, Follow ranges follow ∧ bytes = follow ++ rest ∧ value = extended code follow := by
  induction ranges generalizing code bytes with
  | nil => cases bytes <;> cases h <;> exact ⟨[], .nil, rfl, rfl⟩
  | cons range ranges ih =>
    cases bytes with
    | nil => cases h
    | cons byte bytes =>
      rw [takeFollowers] at h
      split at h
      · rename_i hbyte
        obtain ⟨follow, hfollow, rfl, rfl⟩ := ih h
        exact ⟨byte :: follow, .cons (within_iff.1 hbyte) hfollow, rfl, rfl⟩
      · cases h

/-! ## The four lengths -/

/-- The bytes of the character with a code point, as numbers. -/
def spelling (code : Nat) : List Nat :=
  if code ≤ 0x7F then [code]
  else if code ≤ 0x7FF then [0xC0 + code / 0x40, 0x80 + code % 0x40]
  else if code ≤ 0xFFFF then
    [0xE0 + code / 0x1000, 0x80 + code / 0x40 % 0x40, 0x80 + code % 0x40]
  else
    [0xF0 + code / 0x40000, 0x80 + code / 0x1000 % 0x40, 0x80 + code / 0x40 % 0x40,
      0x80 + code % 0x40]

section Lengths

variable {first : UInt8}

lemma followers_one (h : first.toNat ≤ 0x7F) :
    followers first = some [] ∧ leadBits first = first.toNat := by
  unfold followers leadBits
  dsimp only
  rw [if_pos h, if_pos h]
  exact ⟨rfl, rfl⟩

lemma followers_two (hleast : 0xC2 ≤ first.toNat) (hgreatest : first.toNat ≤ 0xDF) :
    followers first = some [(0x80, 0xBF)] ∧ leadBits first = first.toNat % 0x20 := by
  unfold followers leadBits
  dsimp only
  rw [if_neg (by omega), if_neg (by omega), if_pos hgreatest, if_neg (by omega), if_pos hgreatest]
  exact ⟨rfl, rfl⟩

lemma followers_three (hleast : 0xE0 ≤ first.toNat) (hgreatest : first.toNat ≤ 0xEF) :
    followers first =
      some [(if first.toNat = 0xE0 then 0xA0 else 0x80, if first.toNat = 0xED then 0x9F else 0xBF),
        (0x80, 0xBF)] ∧
      leadBits first = first.toNat % 0x10 := by
  unfold followers leadBits
  dsimp only
  rw [if_neg (by omega), if_neg (by omega), if_neg (by omega)]
  refine ⟨?_, by rw [if_neg (by omega), if_neg (by omega), if_pos hgreatest]⟩
  split_ifs <;> first | rfl | omega

lemma followers_four (hleast : 0xF0 ≤ first.toNat) (hgreatest : first.toNat ≤ 0xF4) :
    followers first =
      some [(if first.toNat = 0xF0 then 0x90 else 0x80, if first.toNat = 0xF4 then 0x8F else 0xBF),
        (0x80, 0xBF), (0x80, 0xBF)] ∧
      leadBits first = first.toNat % 0x08 := by
  unfold followers leadBits
  dsimp only
  rw [if_neg (by omega), if_neg (by omega), if_neg (by omega), if_neg (by omega),
    if_neg (by omega), if_neg (by omega)]
  refine ⟨?_, by rw [if_neg (by omega), if_neg (by omega), if_neg (by omega)]⟩
  split_ifs <;> first | rfl | omega

/-- Every first byte of a character belongs to one of the four lengths. -/
lemma length_cases {ranges : List (Nat × Nat)} (h : followers first = some ranges) :
    first.toNat ≤ 0x7F ∨ (0xC2 ≤ first.toNat ∧ first.toNat ≤ 0xDF) ∨
      (0xE0 ≤ first.toNat ∧ first.toNat ≤ 0xEF) ∨ (0xF0 ≤ first.toNat ∧ first.toNat ≤ 0xF4) := by
  unfold followers at h
  dsimp only at h
  split_ifs at h <;> omega

end Lengths

lemma spelled_two {a b code : Nat} (h : 0xC2 ≤ a ∧ a ≤ 0xDF) :
    (0x80 ≤ b ∧ b ≤ 0xBF) ∧ a % 0x20 * 0x40 + b % 0x40 = code ↔
      code.isValidChar ∧ [a, b] = spelling code := by
  unfold spelling Nat.isValidChar
  split_ifs <;>
    simp only [List.cons.injEq, reduceCtorEq, and_true, and_false, iff_false] <;> omega

lemma spelled_three {a b c code : Nat} (h : 0xE0 ≤ a ∧ a ≤ 0xEF) :
    ((if a = 0xE0 then 0xA0 else 0x80) ≤ b ∧ b ≤ (if a = 0xED then 0x9F else 0xBF)) ∧
        (0x80 ≤ c ∧ c ≤ 0xBF) ∧ (a % 0x10 * 0x40 + b % 0x40) * 0x40 + c % 0x40 = code ↔
      code.isValidChar ∧ [a, b, c] = spelling code := by
  unfold spelling Nat.isValidChar
  split_ifs <;>
    simp only [List.cons.injEq, reduceCtorEq, and_true, and_false, iff_false] <;> omega

lemma spelled_four {a b c d code : Nat} (h : 0xF0 ≤ a ∧ a ≤ 0xF4) :
    ((if a = 0xF0 then 0x90 else 0x80) ≤ b ∧ b ≤ (if a = 0xF4 then 0x8F else 0xBF)) ∧
        (0x80 ≤ c ∧ c ≤ 0xBF) ∧ (0x80 ≤ d ∧ d ≤ 0xBF) ∧
        ((a % 0x08 * 0x40 + b % 0x40) * 0x40 + c % 0x40) * 0x40 + d % 0x40 = code ↔
      code.isValidChar ∧ [a, b, c, d] = spelling code := by
  unfold spelling Nat.isValidChar
  split_ifs <;>
    simp only [List.cons.injEq, reduceCtorEq, and_true, and_false, iff_false] <;> omega

lemma spelled_of_follow {first : UInt8} {follow : List UInt8} {ranges : List (Nat × Nat)}
    (hranges : followers first = some ranges) (hfollow : Follow ranges follow) :
    (extended (leadBits first) follow).isValidChar ∧
      (first :: follow).map UInt8.toNat = spelling (extended (leadBits first) follow) := by
  rcases length_cases hranges with hlength | hlength | hlength | hlength
  · obtain ⟨hone, hlead⟩ := followers_one hlength
    cases hone.symm.trans hranges
    cases hfollow
    refine ⟨Or.inl ?_, ?_⟩
    · show leadBits first < 0xD800
      omega
    · show [first.toNat] = spelling (leadBits first)
      rw [hlead, spelling, if_pos hlength]
  · obtain ⟨htwo, hlead⟩ := followers_two hlength.1 hlength.2
    cases htwo.symm.trans hranges
    obtain _ | ⟨hb, _ | _⟩ := hfollow
    rw [hlead]
    exact (spelled_two hlength).1 ⟨hb, rfl⟩
  · obtain ⟨hthree, hlead⟩ := followers_three hlength.1 hlength.2
    cases hthree.symm.trans hranges
    obtain _ | ⟨hb, _ | ⟨hc, _ | _⟩⟩ := hfollow
    rw [hlead]
    exact (spelled_three hlength).1 ⟨hb, hc, rfl⟩
  · obtain ⟨hfour, hlead⟩ := followers_four hlength.1 hlength.2
    cases hfour.symm.trans hranges
    obtain _ | ⟨hb, _ | ⟨hc, _ | ⟨hd, _ | _⟩⟩⟩ := hfollow
    rw [hlead]
    exact (spelled_four hlength).1 ⟨hb, hc, hd, rfl⟩

lemma follow_of_spelled {first : UInt8} {follow : List UInt8} {code : Nat}
    (hvalid : code.isValidChar) (h : (first :: follow).map UInt8.toNat = spelling code) :
    ∃ ranges, followers first = some ranges ∧ Follow ranges follow ∧
      extended (leadBits first) follow = code := by
  have hlengths := h
  unfold spelling at hlengths
  unfold Nat.isValidChar at hvalid
  split_ifs at hlengths
  · obtain ⟨hfirst, hfollow⟩ := List.cons.inj hlengths
    obtain rfl := List.map_eq_nil_iff.1 hfollow
    have hlength : first.toNat ≤ 0x7F := by omega
    obtain ⟨hone, hlead⟩ := followers_one hlength
    exact ⟨[], hone, .nil, hlead.trans hfirst⟩
  · obtain ⟨b, rfl⟩ := List.length_eq_one_iff.1 (by simpa using congrArg List.length hlengths)
    have hlength : 0xC2 ≤ first.toNat ∧ first.toNat ≤ 0xDF := by
      have hfirst := (List.cons.inj hlengths).1
      omega
    obtain ⟨htwo, hlead⟩ := followers_two hlength.1 hlength.2
    obtain ⟨hb, hcode⟩ := (spelled_two hlength).2 ⟨hvalid, h⟩
    exact ⟨_, htwo, .cons hb .nil, by rw [hlead]; exact hcode⟩
  · obtain ⟨b, c, rfl⟩ := List.length_eq_two.1 (by simpa using congrArg List.length hlengths)
    have hlength : 0xE0 ≤ first.toNat ∧ first.toNat ≤ 0xEF := by
      have hfirst := (List.cons.inj hlengths).1
      omega
    obtain ⟨hthree, hlead⟩ := followers_three hlength.1 hlength.2
    obtain ⟨hb, hc, hcode⟩ := (spelled_three hlength).2 ⟨hvalid, h⟩
    exact ⟨_, hthree, .cons hb (.cons hc .nil), by rw [hlead]; exact hcode⟩
  · obtain ⟨b, c, d, rfl⟩ := List.length_eq_three.1 (by simpa using congrArg List.length hlengths)
    have hlength : 0xF0 ≤ first.toNat ∧ first.toNat ≤ 0xF4 := by
      have hfirst := (List.cons.inj hlengths).1
      omega
    obtain ⟨hfour, hlead⟩ := followers_four hlength.1 hlength.2
    obtain ⟨hb, hc, hd, hcode⟩ := (spelled_four hlength).2 ⟨hvalid, h⟩
    exact ⟨_, hfour, .cons hb (.cons hc (.cons hd .nil)), by rw [hlead]; exact hcode⟩

/-! ## Characters -/

lemma toNat_ofNat {code : Nat} (h : code.isValidChar) : (Char.ofNat code).toNat = code := by
  rw [Char.ofNat, dif_pos h]
  rfl

lemma map_toNat_utf8EncodeChar (c : Char) :
    (String.utf8EncodeChar c).map UInt8.toNat = spelling c.toNat := by
  have hvalid : c.val.toNat < 0xD800 ∨ 0xDFFF < c.val.toNat ∧ c.val.toNat < 0x110000 := c.valid
  unfold String.utf8EncodeChar spelling Char.toNat
  dsimp only
  generalize c.val.toNat = code at hvalid ⊢
  split_ifs <;> simp only [List.map_cons, List.map_nil, UInt8.toNat_ofNat', List.cons.injEq,
    and_true] <;> omega

lemma utf8EncodeChar_eq_iff {c : Char} {bytes : List UInt8} :
    String.utf8EncodeChar c = bytes ↔ bytes.map UInt8.toNat = spelling c.toNat := by
  have hinjective : Function.Injective UInt8.toNat := fun _ _ h => UInt8.toNat_inj.1 h
  rw [← map_toNat_utf8EncodeChar, eq_comm, (List.map_injective_iff.2 hinjective).eq_iff]

/-- Only an ASCII character is spelled with a byte below 0x80, and then with no other. -/
lemma utf8EncodeChar_eq_of_mem {c : Char} {byte : UInt8} (hmem : byte ∈ String.utf8EncodeChar c)
    (hascii : byte.toNat < 0x80) : c.toNat = byte.toNat ∧ String.utf8EncodeChar c = [byte] := by
  have hspelled := List.mem_map_of_mem (f := UInt8.toNat) hmem
  rw [map_toNat_utf8EncodeChar] at hspelled
  have hcode : c.toNat = byte.toNat := by
    unfold spelling at hspelled
    split_ifs at hspelled <;> simp at hspelled <;> omega
  refine ⟨hcode, utf8EncodeChar_eq_iff.2 ?_⟩
  rw [spelling, if_pos (by omega), hcode]
  rfl

lemma nextChar_eq_some_iff {first : UInt8} {bytes rest : List UInt8} {c : Char} :
    nextChar first bytes = (some c, rest) ↔
      first :: bytes = String.utf8EncodeChar c ++ rest := by
  constructor
  · intro h
    unfold nextChar at h
    split at h
    · cases h
    · rename_i ranges hranges
      obtain ⟨hc, rfl⟩ := Prod.mk.inj h
      obtain ⟨code, hcode, rfl⟩ := Option.map_eq_some_iff.1 hc
      obtain ⟨follow, hfollow, hbytes, rfl⟩ := exists_follow (Prod.ext hcode rfl)
      obtain ⟨hvalid, hspelled⟩ := spelled_of_follow hranges hfollow
      rw [← toNat_ofNat hvalid, ← utf8EncodeChar_eq_iff] at hspelled
      rw [hspelled, List.cons_append, ← hbytes]
  · intro h
    obtain ⟨lead, follow, hchar⟩ :=
      List.exists_cons_of_ne_nil (String.utf8EncodeChar_ne_nil (c := c))
    rw [hchar, List.cons_append] at h
    obtain ⟨rfl, rfl⟩ := List.cons.inj h
    obtain ⟨ranges, hranges, hfollow, hcode⟩ :=
      follow_of_spelled c.valid (utf8EncodeChar_eq_iff.1 hchar)
    rw [nextChar, hranges]
    simp only [takeFollowers_append hfollow, hcode, Option.map_some]
    rw [show c.val.toNat = c.toNat from rfl, Char.ofNat_toNat]

/-! ## Texts -/

/-- The bytes that spell a text. -/
def spelled (text : List Char) : List UInt8 := text.flatMap String.utf8EncodeChar

lemma spelled_append (text more : List Char) :
    spelled (text ++ more) = spelled text ++ spelled more :=
  List.flatMap_append

/-- Where an ASCII byte stands among the bytes that spell a text, there its character stands in the
text. -/
lemma exists_split_spelled {text : List Char} {before rest : List UInt8} {byte : UInt8}
    (hascii : byte.toNat < 0x80) (h : spelled text = before ++ byte :: rest) :
    ∃ left c right, text = left ++ c :: right ∧ before = spelled left ∧ c.toNat = byte.toNat ∧
      rest = spelled right := by
  induction text generalizing before with
  | nil => cases before <;> cases h
  | cons c text ih =>
    -- The byte belongs to the first character or to a later one.
    rcases List.append_eq_append_iff.1 h with ⟨between, rfl, hrest⟩ | ⟨between, hchar, hrest⟩
    · obtain ⟨left, d, right, rfl, rfl, hd, rfl⟩ := ih hrest
      exact ⟨c :: left, d, right, rfl, rfl, hd, rfl⟩
    · cases between with
      | nil =>
        have hlater : spelled text = [] ++ byte :: rest := hrest.symm
        obtain ⟨left, d, right, rfl, hleft, hd, rfl⟩ := ih hlater
        rw [List.append_nil] at hchar
        refine ⟨c :: left, d, right, rfl, ?_, hd, rfl⟩
        show before = String.utf8EncodeChar c ++ spelled left
        rw [← hleft, hchar, List.append_nil]
      | cons byte' between =>
        obtain ⟨rfl, rfl⟩ := List.cons.inj hrest
        obtain ⟨hc, halone⟩ := utf8EncodeChar_eq_of_mem (c := c) (by rw [hchar]; simp) hascii
        rw [halone] at hchar
        obtain ⟨rfl, rfl⟩ : before = [] ∧ between = [] := by
          cases before <;> simp_all
        exact ⟨[], c, text, rfl, rfl, hc, rfl⟩

lemma decode?_cons (first : UInt8) (bytes : List UInt8) :
    decode? (first :: bytes) =
      (nextChar first bytes).1.bind fun c => (decode? (nextChar first bytes).2).map (c :: ·) := by
  rw [decode?, pieces, List.mapM_cons]
  cases (nextChar first bytes).1 with
  | none => rfl
  | some c => cases h : (pieces (nextChar first bytes).2).mapM id <;> simp [decode?, h]

lemma decode?_nil : decode? [] = some [] := by
  rw [decode?, pieces]
  rfl

/-- A text is read from the bytes that spell it, and from no others. -/
theorem decode?_eq_some_iff {bytes : List UInt8} {text : List Char} :
    decode? bytes = some text ↔ bytes = spelled text := by
  unfold spelled
  constructor
  · intro h
    induction bytes using pieces.induct generalizing text with
    | case1 =>
      obtain rfl := Option.some.inj (decode?_nil.symm.trans h)
      rfl
    | case2 first bytes ih =>
      rw [decode?_cons] at h
      obtain ⟨c, hc, htext⟩ := Option.bind_eq_some_iff.1 h
      obtain ⟨rest, hrest, rfl⟩ := Option.map_eq_some_iff.1 htext
      rw [List.flatMap_cons, ← ih hrest]
      exact nextChar_eq_some_iff.1 (Prod.ext hc rfl)
  · rintro rfl
    induction text with
    | nil => exact decode?_nil
    | cons c text ih =>
      obtain ⟨lead, follow, hchar⟩ :=
        List.exists_cons_of_ne_nil (String.utf8EncodeChar_ne_nil (c := c))
      have hnext : nextChar lead (follow ++ text.flatMap String.utf8EncodeChar) =
          (some c, text.flatMap String.utf8EncodeChar) :=
        nextChar_eq_some_iff.2 (by rw [hchar, List.cons_append])
      rw [List.flatMap_cons, hchar, List.cons_append, decode?_cons, hnext, Option.bind_some, ih]
      rfl

lemma decode?_spelled (text : List Char) : decode? (spelled text) = some text :=
  decode?_eq_some_iff.2 rfl

/-- Bytes are valid if they spell a text. -/
lemma isValidUTF8_iff {bytes : List UInt8} :
    bytes.toByteArray.IsValidUTF8 ↔ ∃ text, bytes = spelled text := by
  constructor
  · rintro ⟨text, htext⟩
    exact ⟨text, List.toByteArray_inj.1 htext⟩
  · rintro ⟨text, rfl⟩
    exact ⟨text, rfl⟩

lemma decode?_eq_none_iff {bytes : List UInt8} :
    decode? bytes = none ↔ ¬ bytes.toByteArray.IsValidUTF8 := by
  rw [isValidUTF8_iff, Option.eq_none_iff_forall_ne_some, not_exists]
  exact forall_congr' fun text => not_congr decode?_eq_some_iff

end DeviceStandby.Utf8
