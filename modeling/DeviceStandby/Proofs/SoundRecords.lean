import DeviceStandby.Proofs.Masks

/-!
# Sound records

A record is sound (`Record.Sound`) if its entries stand at different places, all of them places of
kinds, and its mask is the union of their bits.  In a sound record mask and entries tell the same:
the mask is empty exactly if there is no entry, and taking entries out takes exactly their bits out
of the mask (`Record.Sound.without_eq`), which would fail if two entries stood at one place.

A record is well formed (`Record.WellFormed`) if it is sound, has an entry, and belongs to somebody.
-/

namespace DeviceStandby

/-! ## Prolonging one entry -/

/-- Prolonging the exemption at a place leaves the places as they are, or adds this one at the
end. -/
lemma map_index_extendEntries (index : Nat) (endTime : Int) (reason : String)
    (entries : List Entry) :
    (extendEntries index endTime reason entries).map Entry.index
      = if index ∈ entries.map Entry.index then entries.map Entry.index
        else entries.map Entry.index ++ [index] := by
  induction entries with
  | nil => rfl
  | cons entry rest ih =>
    unfold extendEntries
    split
    case isTrue heq => simp [heq]
    case isFalse hne =>
      rw [List.map_cons, ih]
      by_cases hmem : index ∈ rest.map Entry.index
      · simp [hmem]
      · simp [hmem, Ne.symm hne]

/-- An entry that is there after a prolongation was there before, or it stands at the place that was
prolonged and ends at the new time or, if there was one before, at the later of both times. -/
lemma mem_extendEntries {index : Nat} {endTime : Int} {reason : String} {entries : List Entry}
    {entry : Entry} (h : entry ∈ extendEntries index endTime reason entries) :
    entry ∈ entries ∨ entry.index = index ∧ (entry.endTime = endTime ∨
      ∃ old ∈ entries, old.index = index ∧ entry.endTime = max old.endTime endTime) := by
  induction entries with
  | nil =>
    obtain rfl : entry = ⟨index, endTime, reason⟩ := by simpa [extendEntries] using h
    exact Or.inr ⟨rfl, Or.inl rfl⟩
  | cons old rest ih =>
    unfold extendEntries at h
    split at h
    case isTrue heq =>
      rcases List.mem_cons.1 h with h | h
      · subst h
        exact Or.inr ⟨heq, Or.inr ⟨old, List.mem_cons_self, heq, rfl⟩⟩
      · exact Or.inl (List.mem_cons_of_mem _ h)
    case isFalse =>
      rcases List.mem_cons.1 h with h | h
      · exact Or.inl (h ▸ List.mem_cons_self)
      · rcases ih h with h | ⟨hindex, h | ⟨other, hmem, hother⟩⟩
        · exact Or.inl (List.mem_cons_of_mem _ h)
        · exact Or.inr ⟨hindex, Or.inl h⟩
        · exact Or.inr ⟨hindex, Or.inr ⟨other, List.mem_cons_of_mem _ hmem, hother⟩⟩

/-- An exemption that was there before a prolongation is there still, and ends no earlier. -/
lemma exists_mem_extendEntries_of_mem (index : Nat) (endTime : Int) (reason : String)
    {entries : List Entry} {entry : Entry} (h : entry ∈ entries) :
    ∃ last ∈ extendEntries index endTime reason entries,
      last.index = entry.index ∧ entry.endTime ≤ last.endTime := by
  induction entries with
  | nil => cases h
  | cons old rest ih =>
    unfold extendEntries
    by_cases heq : old.index = index
    · rw [if_pos heq]
      rcases List.mem_cons.1 h with rfl | h
      · exact ⟨_, List.mem_cons_self, rfl, Int.le_max_left _ _⟩
      · exact ⟨entry, List.mem_cons_of_mem _ h, rfl, Int.le_refl _⟩
    · rw [if_neg heq]
      rcases List.mem_cons.1 h with rfl | h
      · exact ⟨entry, List.mem_cons_self, rfl, Int.le_refl _⟩
      · obtain ⟨last, hlast, hentry⟩ := ih h
        exact ⟨last, List.mem_cons_of_mem _ hlast, hentry⟩

/-! ## Soundness -/

namespace Record

/-- The entries stand at different places of kinds, and the mask is the union of their bits. -/
structure Sound (record : Record) : Prop where
  distinct : (record.entries.map Entry.index).Nodup
  known : ∀ entry ∈ record.entries, 1 ≤ entry.index ∧ entry.index ≤ 7
  mask_eq : record.mask = record.entriesMask

/-- The record is sound, holds an exemption, and its owner has a user number that can have one. -/
structure WellFormed (record : Record) : Prop extends Sound record where
  nonempty : record.entries ≠ []
  uid_valid : 0 ≤ record.uid

/-- The record with those of its entries that pass a test. -/
def keepOnly (record : Record) (keep : Entry → Bool) : Record :=
  { record with
    entries := record.entries.filter keep
    mask := DeviceStandby.entriesMask (record.entries.filter keep) }

namespace Sound

variable {record : Record}

/-- A sound record has the bit of a place if an entry stands there. -/
lemma getLsbD_mask (h : record.Sound) (i : Nat) :
    record.mask.getLsbD i = true ↔ ∃ entry ∈ record.entries, entry.index = i := by
  rw [h.mask_eq, Record.entriesMask, getLsbD_entriesMask, Bool.and_eq_true, decide_eq_true_iff,
    decide_eq_true_iff, List.mem_map]
  refine and_iff_right_of_imp ?_
  rintro ⟨entry, hmem, rfl⟩
  have := h.known entry hmem
  omega

/-- In a sound record an entry is the one that is found at its place. -/
lemma entry?_of_mem (h : record.Sound) {entry : Entry} (hmem : entry ∈ record.entries) :
    record.entry? entry.index = some entry := by
  unfold Record.entry?
  cases hfound : record.entries.find? (fun other => other.index = entry.index) with
  | none =>
    have hnone := List.find?_eq_none.1 hfound entry hmem
    simp at hnone
  | some other =>
    have hother : other ∈ record.entries := List.mem_of_find?_eq_some hfound
    have hindex : other.index = entry.index := by simpa using List.find?_some hfound
    rw [List.inj_on_of_nodup_map h.distinct hother hmem hindex]

lemma mask_eq_zero_iff (h : record.Sound) : record.mask = 0 ↔ record.entries = [] := by
  rw [Mask.eq_zero_iff, List.eq_nil_iff_forall_not_mem]
  constructor
  · intro hzero entry hmem
    have hbit := (h.getLsbD_mask entry.index).2 ⟨entry, hmem, rfl⟩
    exact Bool.false_ne_true ((hzero entry.index).symm.trans hbit)
  · intro hnone i
    rw [← Bool.not_eq_true, h.getLsbD_mask]
    rintro ⟨entry, hmem, -⟩
    exact hnone entry hmem

lemma keepOnly (h : record.Sound) (keep : Entry → Bool) : (record.keepOnly keep).Sound where
  distinct := h.distinct.sublist (List.filter_sublist.map _)
  known := fun entry hmem => h.known entry (List.mem_of_mem_filter hmem)
  mask_eq := rfl

/-- Some entries of a sound record have an empty mask only if there is none. -/
lemma entriesMask_filter_eq_zero (h : record.Sound) (keep : Entry → Bool) :
    DeviceStandby.entriesMask (record.entries.filter keep) = 0
      ↔ record.entries.filter keep = [] :=
  (h.keepOnly keep).mask_eq_zero_iff

/-- Some entries of a sound record have the bit of a place if one of them stands there. -/
lemma getLsbD_filter (h : record.Sound) (keep : Entry → Bool) (i : Nat) :
    (DeviceStandby.entriesMask (record.entries.filter keep)).getLsbD i = true
      ↔ ∃ entry ∈ record.entries, keep entry = true ∧ entry.index = i := by
  refine ((h.keepOnly keep).getLsbD_mask i).trans ?_
  simp only [Record.keepOnly, List.mem_filter, and_assoc]

/-- Taking entries out of a sound record takes exactly their bits out of the mask. -/
lemma without_eq (h : record.Sound) (gone : Entry → Bool) :
    record.mask.without (DeviceStandby.entriesMask (record.entries.filter gone))
      = DeviceStandby.entriesMask (record.entries.filter (fun entry => !gone entry)) := by
  refine BitVec.eq_of_getLsbD_eq (fun i _ => ?_)
  rw [Mask.getLsbD_without, Bool.eq_iff_iff, Bool.and_eq_true, Bool.not_eq_true',
    ← Bool.not_eq_true, h.getLsbD_mask, h.getLsbD_filter, h.getLsbD_filter]
  constructor
  · rintro ⟨⟨entry, hmem, rfl⟩, hnone⟩
    exact ⟨entry, hmem, by grind, rfl⟩
  · rintro ⟨entry, hmem, hkeep, rfl⟩
    refine ⟨⟨entry, hmem, rfl⟩, ?_⟩
    rintro ⟨other, hother, hgone, hindex⟩
    -- Two entries at one place are one and the same.
    obtain rfl : other = entry := List.inj_on_of_nodup_map h.distinct hother hmem hindex
    simp [hgone] at hkeep

/-- The entries that are taken out of a sound record have the whole mask exactly if none is left. -/
lemma entriesMask_filter_eq_mask (h : record.Sound) (gone : Entry → Bool) :
    DeviceStandby.entriesMask (record.entries.filter gone) = record.mask
      ↔ record.entries.filter (fun entry => !gone entry) = [] := by
  rw [← h.entriesMask_filter_eq_zero, ← h.without_eq]
  constructor
  · intro heq
    rw [heq, Mask.without, BitVec.and_not_self]
  · intro hzero
    refine BitVec.eq_of_getLsbD_eq (fun i _ => ?_)
    have hbit := Mask.eq_zero_iff.1 hzero i
    have hgone := h.getLsbD_filter gone i
    have hmask := h.getLsbD_mask i
    rw [Mask.getLsbD_without] at hbit
    grind

lemma extend (h : record.Sound) (kind : Resource) (endTime : Int) (reason : String) :
    (record.extend kind endTime reason).Sound where
  distinct := by
    rw [Record.extend, map_index_extendEntries]
    split
    case isTrue => exact h.distinct
    case isFalse hnew =>
      exact List.nodup_append.2 ⟨h.distinct, List.nodup_singleton _, by grind⟩
  known := by
    intro entry hmem
    rcases mem_extendEntries hmem with hmem | ⟨hindex, -⟩
    · exact h.known entry hmem
    · exact hindex ▸ kind.index_mem
  mask_eq := by
    refine BitVec.eq_of_getLsbD_eq (fun i hi => ?_)
    rw [Record.entriesMask, getLsbD_entriesMask, Record.extend, map_index_extendEntries,
      BitVec.getLsbD_or, h.mask_eq, Record.entriesMask, getLsbD_entriesMask, Resource.bit,
      Mask.getLsbD_bit]
    grind

end Sound

lemma sound_blank (uid : Uid) (pid : Pid) (name : String) (code : ReasonCode) :
    (blank uid pid name code).Sound where
  distinct := List.nodup_nil
  known := by simp [blank]
  mask_eq := rfl

end Record

end DeviceStandby
