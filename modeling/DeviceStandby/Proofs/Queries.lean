import DeviceStandby.Proofs.GrantEffects
import DeviceStandby.Proofs.RevokedEntries

/-!
# What a question is answered, and what it changes

Those who ask for exemptions with a reason code are concerned with the records that carry it and
with no others (`RecordTable.carrying`).  Kind by kind they are told of the exemptions that such
records hold and that go on (`RecordTable.held`), and those that have ended are taken out
(`RecordTable.reaped`).

The table changes while the answer is put together: what has ended is taken out after one kind and
before the next.  That makes no difference, because what a record holds of one kind stays when
another kind is reaped (`RecordTable.held_reaped`), so the whole answer can be read off the table as
it was, and all that is taken out can be taken out at once (`RecordTable.scan_eq`).

All this holds as long as the time that is left of each exemption fits 64 bits
(`RecordTable.InReach`).  If an exemption ended longer ago than that, the difference is cut, and a
long time seems to be left (`long_ended_exemption_is_listed`).
-/

namespace DeviceStandby

/-- An exemption of an owner. -/
structure Holding where
  uid : Uid
  name : String
  entry : Entry
deriving DecidableEq

/-- The exemptions from a kind that a record holds; if the record is sound, there is at most one. -/
def Record.holdings (record : Record) (kind : Resource) : List Holding :=
  (record.entries.filter (fun entry => entry.index = kind.index)).map
    (fun entry => ⟨record.uid, record.name, entry⟩)

namespace RecordTable

/-- The records that carry a reason code. -/
def carrying (table : RecordTable) (code : ReasonCode) : RecordTable :=
  Table.filterMap
    (fun record => if record.reasonCode = code.number then some record else none) table

/-- The exemptions from a kind in the records that carry a reason code, in the order of the keys. -/
def held (table : RecordTable) (code : ReasonCode) (kind : Resource) : List Holding :=
  (table.carrying code).values.flatMap (fun record => record.holdings kind)

/-- No exemption from a kind in the records that carry a reason code ends further from a time than
64 bits can tell. -/
def InReach (table : RecordTable) (code : ReasonCode) (now : Int) (kind : Resource) : Prop :=
  ∀ held ∈ table.held code kind, held.entry.InReach now

/-- The exemptions from a kind that go on, as those who ask with a reason code are told of them. -/
def lines (table : RecordTable) (code : ReasonCode) (now : Int) (kind : Resource) :
    List Allowance :=
  ((table.held code kind).filter (fun held => now < held.entry.endTime)).map
    (fun held => Allowance.of kind held.name (held.entry.endTime - now))

/-- What the owners lose if the exemptions from a kind that have ended are taken out. -/
def losses (table : RecordTable) (code : ReasonCode) (now : Int) (kind : Resource) :
    List Revoked :=
  ((table.held code kind).filter (fun held => held.entry.endTime ≤ now)).map
    (fun held => ⟨held.uid, held.name, kind.bit⟩)

/-- The table with some entries taken out of the records that carry a reason code. -/
def reaped (table : RecordTable) (code : ReasonCode) (gone : Entry → Bool) : RecordTable :=
  Table.filterMap (fun record =>
    if record.reasonCode = code.number then record.left (fun entry => !gone entry)
    else some record) table

end RecordTable

/-! ## One record -/

namespace Record

variable {record : Record} {kind : Resource} {code : ReasonCode} {now : Int}

lemma left_congr {keep more : Entry → Bool}
    (h : ∀ entry ∈ record.entries, keep entry = more entry) :
    record.left keep = record.left more := by
  have hentries : record.entries.filter keep = record.entries.filter more := List.filter_congr h
  rw [left, left, keepOnly, keepOnly, hentries]

/-- What is left of what was left. -/
lemma left_left (keep more : Entry → Bool) : (record.left keep).bind (fun rest => rest.left more)
    = record.left (fun entry => keep entry && more entry) := by
  have hboth : (record.entries.filter keep).filter more
      = record.entries.filter (fun entry => keep entry && more entry) := by
    rw [List.filter_filter]
    exact List.filter_congr (fun entry _ => Bool.and_comm _ _)
  unfold left
  split
  case isTrue hnil =>
    rw [hnil, List.filter_nil] at hboth
    rw [if_pos hboth.symm]
    rfl
  case isFalse => simp only [Option.bind_some, keepOnly, hboth]

lemma reasonCode_left {keep : Entry → Bool} {rest : Record} (h : record.left keep = some rest) :
    rest.reasonCode = record.reasonCode := by
  unfold left at h
  split at h
  · cases h
  · obtain rfl := Option.some.inj h
    rfl

/-- In a sound record there is nothing at a place but what is found there. -/
lemma Sound.filter_index_eq (h : record.Sound) (place : Nat) :
    record.entries.filter (fun entry => entry.index = place) = ( record.entry? place).toList := by
  unfold entry?
  have hdistinct := h.distinct
  generalize record.entries = entries at hdistinct ⊢
  induction entries with
  | nil => rfl
  | cons entry rest ih =>
    obtain ⟨hnew, hrest⟩ := List.nodup_cons.1 hdistinct
    by_cases hplace : entry.index = place
    · have hnone : rest.filter (fun entry => entry.index = place) = [] := by
        refine List.filter_eq_nil_iff.2 (fun other hmem hother => hnew ?_)
        rw [hplace, ← of_decide_eq_true hother]
        exact List.mem_map_of_mem hmem
      rw [List.filter_cons_of_pos (by simpa using hplace), hnone,
        List.find?_cons_of_pos (by simpa using hplace)]
      rfl
    · rw [List.filter_cons_of_neg (by simpa using hplace), ih hrest,
        List.find?_cons_of_neg (by simpa using hplace)]

/-- What a record holds of a kind is what is found at its place. -/
lemma Sound.holdings_eq (h : record.Sound) (kind : Resource) : record.holdings kind
    = ( record.entry? kind.index).toList.map (fun entry => ⟨record.uid, record.name, entry⟩) := by
  rw [holdings, h.filter_index_eq]

/-- What a sound record says about a kind is said by what it holds of it. -/
lemma Sound.standing_eq (h : record.Sound) (hcode : record.reasonCode = code.number) :
    record.standing kind code now = match record.entry? kind.index with
      | none => .absent
      | some entry =>
        if 0 < entry.timeLeft now then .remaining (entry.timeLeft now) else .expired := by
  have hmask : record.entry? kind.index ≠ none → record.mask.meets kind.bit = true := by
    intro hsome
    obtain ⟨entry, hentry⟩ := Option.ne_none_iff_exists'.1 hsome
    have hindex : entry.index = kind.index := by simpa using List.find?_some hentry
    rw [Resource.bit, Mask.meets_bit, h.getLsbD_mask]
    exact ⟨entry, List.mem_of_find?_eq_some hentry, hindex⟩
  unfold standing
  cases hentry : record.entry? kind.index with
  | none => split <;> rfl
  | some entry => rw [hmask (by rw [hentry]; simp), hcode]; simp

/-- A sound record says that its exemption from a kind has expired if it has an entry that is
due. -/
lemma Sound.standing_eq_expired_iff (h : record.Sound) (hcode : record.reasonCode = code.number)
    (hreach : ∀ entry ∈ record.entries, entry.index = kind.index → entry.InReach now) :
    record.standing kind code now = .expired ↔
      ∃ entry ∈ record.entries, entry.index = kind.index ∧ entry.endTime ≤ now := by
  rw [h.standing_eq hcode]
  constructor
  · intro hexpired
    cases hentry : record.entry? kind.index with
    | none =>
      rw [hentry] at hexpired
      cases hexpired
    | some entry =>
      rw [hentry] at hexpired
      have hindex : entry.index = kind.index := by simpa using List.find?_some hentry
      have hmem := List.mem_of_find?_eq_some hentry
      refine ⟨entry, hmem, hindex, ?_⟩
      by_contra hlater
      have hleft : 0 < entry.timeLeft now :=
        (hreach entry hmem hindex).timeLeft_pos_iff.2 (Int.not_le.1 hlater)
      simp [hleft] at hexpired
  · rintro ⟨entry, hmem, hindex, hended⟩
    have hleft : ¬ 0 < entry.timeLeft now := by
      rw [(hreach entry hmem hindex).timeLeft_pos_iff]
      exact Int.not_lt.2 hended
    rw [← hindex, h.entry?_of_mem hmem]
    simp [hleft]

/-- Nothing is due in a record that does not say that its exemption has expired. -/
lemma Sound.due_eq_false (h : record.Sound) (hcode : record.reasonCode = code.number)
    (hreach : ∀ entry ∈ record.entries, entry.index = kind.index → entry.InReach now)
    (hstanding : record.standing kind code now ≠ .expired) : ∀ entry ∈ record.entries,
      (decide (entry.index = kind.index) && decide (entry.endTime ≤ now)) = false := by
  intro entry hmem
  rw [← Bool.not_eq_true, Bool.and_eq_true, decide_eq_true_iff, decide_eq_true_iff]
  exact fun hdue => hstanding ((h.standing_eq_expired_iff hcode hreach).2 ⟨entry, hmem, hdue⟩)

/-- What the owner of a sound record loses with what is due of one kind. -/
lemma Sound.loss_eq (h : record.Sound) (kind : Resource) (now : Int) :
    (record.loss (fun entry => entry.index = kind.index && decide (entry.endTime ≤ now))).toList
      = ((record.holdings kind).filter (fun held => held.entry.endTime ≤ now)).map
        (fun held => ⟨held.uid, held.name, kind.bit⟩) := by
  have hdue : record.entries.filter
        (fun entry => entry.index = kind.index && decide (entry.endTime ≤ now))
      = ( record.entry? kind.index).toList.filter (fun entry => entry.endTime ≤ now) := by
    rw [← h.filter_index_eq, List.filter_filter]
    exact List.filter_congr (fun entry _ => Bool.and_comm _ _)
  rw [loss, hdue, h.holdings_eq]
  cases hentry : record.entry? kind.index with
  | none => rfl
  | some entry =>
    have hindex : entry.index = kind.index := by simpa using List.find?_some hentry
    have hmask : DeviceStandby.entriesMask [entry] = kind.bit := by
      rw [Resource.bit, ← hindex]
      exact BitVec.zero_or
    by_cases hended : entry.endTime ≤ now
    · simp [hended, hmask]
    · simp [hended]

lemma standing_of_ne (h : record.reasonCode ≠ code.number) :
    record.standing kind code now = .absent := by
  simp [standing, h]

end Record

namespace RecordTable

variable {table : RecordTable} {code : ReasonCode} {kind : Resource} {now : Int}
  {gone more : Entry → Bool}

/-! ## What is held, record by record -/

/-- What is held of a kind is what the records hold, one after the other. -/
lemma held_eq (table : RecordTable) (code : ReasonCode) (kind : Resource) :
    table.held code kind = table.values.flatMap (fun record =>
      if record.reasonCode = code.number then record.holdings kind else []) := by
  rw [held, carrying, Table.values_filterMap, List.filterMap_eq_flatMap_toList, List.flatMap_assoc]
  refine List.flatMap_congr (fun record _ => ?_)
  split
  · simp
  · rfl

/-- What is in reach in the whole table is in reach in each of its records. -/
lemma InReach.of_get? (h : table.InReach code now kind) {key : String} {record : Record}
    (hget : table.get? key = some record) (hcode : record.reasonCode = code.number) :
    ∀ entry ∈ record.entries, entry.index = kind.index → entry.InReach now := by
  intro entry hmem hindex
  refine h ⟨record.uid, record.name, entry⟩ ?_
  rw [held_eq]
  refine List.mem_flatMap.2 ⟨record, Table.mem_values.2 ⟨key, hget⟩, ?_⟩
  rw [if_pos hcode]
  exact List.mem_map_of_mem (List.mem_filter.2 ⟨hmem, decide_eq_true hindex⟩)

/-- The list of those who are exempted from a kind tells of what is held of it and goes on. -/
lemma live_eq (hsound : table.Holds Record.Sound) (hreach : table.InReach code now kind) :
    table.live kind code now = table.lines code now kind := by
  rw [lines, held_eq, List.filter_flatMap, List.map_flatMap, live, Table.values, List.flatMap_map,
    List.filterMap_eq_flatMap_toList]
  refine List.flatMap_congr ?_
  rintro ⟨key, record⟩ hmem
  have hrecord := (hsound _ _ (Table.mem_entries.1 hmem)).2
  dsimp only
  by_cases hcode : record.reasonCode = code.number
  · rw [if_pos hcode, hrecord.standing_eq hcode, hrecord.holdings_eq]
    cases hentry : record.entry? kind.index with
    | none => rfl
    | some found =>
      have hindex : found.index = kind.index := by simpa using List.find?_some hentry
      have hfound : found.InReach now := hreach.of_get? (Table.mem_entries.1 hmem) hcode found
        (List.mem_of_find?_eq_some hentry) hindex
      by_cases hlater : now < found.endTime
      · simp [hfound.timeLeft_eq, hlater]
      · simp [hfound.timeLeft_eq, hlater]
  · rw [Record.standing_of_ne hcode, if_neg hcode]
    rfl

/-! ## Reaping -/

lemma get?_reaped (key : String) : (table.reaped code gone).get? key
    = (table.get? key).bind (fun record =>
      if record.reasonCode = code.number then record.left (fun entry => !gone entry)
      else some record) := Table.get?_filterMap _ _ _

lemma reaped_congr (h : ∀ key record, table.get? key = some record → ∀ entry ∈ record.entries,
    gone entry = more entry) : table.reaped code gone = table.reaped code more := by
  refine Table.ext_get? (fun key => ?_)
  rw [get?_reaped, get?_reaped]
  cases hget : table.get? key with
  | none => rfl
  | some record =>
    rw [Option.bind_some, Option.bind_some,
      Record.left_congr (fun entry hmem => congrArg not (h key record hget entry hmem))]

/-- Reaping nothing leaves a well-formed table as it is. -/
lemma reaped_of_none (htable : table.WellFormed) (h : ∀ entry, gone entry = false) :
    table.reaped code gone = table := by
  refine Table.ext_get? (fun key => ?_)
  rw [get?_reaped]
  cases hget : table.get? key with
  | none => rfl
  | some record =>
    have hleft : record.left (fun entry => !gone entry) = some record :=
      Record.left_of_forall (htable key record hget).2
        (fun entry _ => by rw [h entry, Bool.not_false])
    rw [Option.bind_some, hleft, ite_self]

/-- Reaping twice is reaping at once what is reaped in the one turn or the other. -/
lemma reaped_reaped : (table.reaped code gone).reaped code more
    = table.reaped code (fun entry => gone entry || more entry) := by
  refine Table.ext_get? (fun key => ?_)
  rw [get?_reaped, get?_reaped, get?_reaped, Option.bind_assoc]
  refine Option.bind_congr (fun record _ => ?_)
  by_cases hcode : record.reasonCode = code.number
  · have hrest : ∀ rest, record.left (fun entry => !gone entry) = some rest →
        rest.reasonCode = code.number :=
      fun rest hleft => (Record.reasonCode_left hleft).trans hcode
    simp only [if_pos hcode, Bool.not_or, ← Record.left_left]
    refine Option.bind_congr (fun rest hleft => ?_)
    rw [if_pos (hrest rest hleft)]
  · simp only [if_neg hcode, Option.bind_some]

/-- Reaping one kind leaves what is held of another. -/
lemma held_reaped (h : ∀ entry : Entry, entry.index = kind.index → gone entry = false) :
    (table.reaped code gone).held code kind = table.held code kind := by
  rw [held_eq, held_eq, reaped, Table.values_filterMap, List.filterMap_eq_flatMap_toList,
    List.flatMap_assoc]
  refine List.flatMap_congr (fun record _ => ?_)
  split
  case isTrue hcode =>
    have hother : (record.entries.filter (fun entry => !gone entry)).filter
          (fun entry => entry.index = kind.index)
        = record.entries.filter (fun entry => entry.index = kind.index) := by
      rw [List.filter_filter]
      refine List.filter_congr (fun entry _ => ?_)
      by_cases hplace : entry.index = kind.index
      · rw [h entry hplace, Bool.not_false, Bool.and_true]
      · simp [hplace]
    unfold Record.left
    split
    case isTrue hnil =>
      rw [hnil, List.filter_nil] at hother
      rw [Record.holdings, ← hother]
      rfl
    case isFalse =>
      simp [Record.holdings, Record.keepOnly, hcode, hother]
  case isFalse hcode => simp [hcode]

/-! ## Keys that are reaped one after the other -/

lemma reapKeys_eq (table : RecordTable) (mask : Mask) (now : Int) (keys : List String) :
    reapKeys table mask now keys = keys.foldl (fun state key =>
      (state.1 ++ (revokeEntries state.2 key mask false now).1.toList,
        (revokeEntries state.2 key mask false now).2)) ([], table) := rfl

lemma reapKeys_cons (table : RecordTable) (mask : Mask) (now : Int) (key : String)
    (keys : List String) : reapKeys table mask now (key :: keys)
      = ((revokeEntries table key mask false now).1.toList
          ++ (reapKeys (revokeEntries table key mask false now).2 mask now keys).1,
        (reapKeys (revokeEntries table key mask false now).2 mask now keys).2) := by
  -- What has been taken out already is carried along in front.
  have hcarried : ∀ (keys : List String) (state : List Revoked × RecordTable),
      keys.foldl (fun state key =>
        (state.1 ++ (revokeEntries state.2 key mask false now).1.toList,
          (revokeEntries state.2 key mask false now).2)) state
      = (state.1 ++ (reapKeys state.2 mask now keys).1, (reapKeys state.2 mask now keys).2) := by
    intro keys
    induction keys with
    | nil => simp [reapKeys_eq]
    | cons key keys ih =>
      intro state
      rw [reapKeys_eq, List.foldl_cons, List.foldl_cons, ih, ih, List.nil_append, List.append_assoc]
  rw [reapKeys_eq, List.foldl_cons]
  exact hcarried keys _

/-- Reaping some keys does to each of them what a revocation does to it. -/
lemma reapKeys_spec (mask : Mask) (now : Int) {keys : List String} (hkeys : keys.Nodup)
    (htable : table.WellFormed) :
    (reapKeys table mask now keys).1 = keys.flatMap (fun key => ((table.get? key).bind
      (fun record => record.loss (fun entry => entry.isRevoked mask false now))).toList) ∧
    ∀ other, (reapKeys table mask now keys).2.get? other = if other ∈ keys
      then (table.get? other).bind
        (fun record => record.left (fun entry => !entry.isRevoked mask false now))
      else table.get? other := by
  induction keys generalizing table with
  | nil => exact ⟨rfl, fun other => by simp [reapKeys]⟩
  | cons key keys ih =>
    obtain ⟨hnew, hrest⟩ := List.nodup_cons.1 hkeys
    have hrecord : ∀ record, table.get? key = some record → record.WellFormed :=
      fun record hget => (htable key record hget).2
    have hnext : (revokeEntries table key mask false now).2.WellFormed :=
      (Revocation.of_revokeEntries table key mask false now).holds (fun _ h => h.toSound)
        (fun _ keep h hleft => h.keepOnly keep hleft) htable
    have hget := get?_revokeEntries hrecord mask false now
    obtain ⟨hlosses, hlast⟩ := ih hrest hnext
    rw [reapKeys_cons]
    constructor
    · rw [hlosses, fst_revokeEntries hrecord, List.flatMap_cons]
      refine congrArg _ (List.flatMap_congr (fun other hmem => ?_))
      have hne : key ≠ other := fun heq => hnew (heq ▸ hmem)
      rw [hget, if_neg hne]
    · intro other
      rw [hlast, hget]
      by_cases hother : key = other
      · subst hother
        simp [hnew]
      · simp [hother, Ne.symm hother]

/-! ## One kind -/

lemma mem_expiredKeys {key : String} : key ∈ table.expiredKeys kind code now ↔
    ∃ record, table.get? key = some record ∧ record.standing kind code now = .expired := by
  simp only [expiredKeys, List.mem_filterMap, Option.ite_none_right_eq_some, Prod.exists,
    Option.some.injEq]
  constructor
  · rintro ⟨key', record, hmem, hexpired, rfl⟩
    exact ⟨record, Table.mem_entries.1 hmem, hexpired⟩
  · rintro ⟨record, hget, hexpired⟩
    exact ⟨key, record, Table.mem_entries.2 hget, hexpired, rfl⟩

lemma expiredKeys_nodup (table : RecordTable) (kind : Resource) (code : ReasonCode) (now : Int) :
    (table.expiredKeys kind code now).Nodup := by
  refine List.pairwise_filterMap.2 (table.sorted.imp (fun {x y} hlt key hkey other hother => ?_))
  obtain ⟨-, hkey⟩ := Option.ite_none_right_eq_some.1 hkey
  obtain ⟨-, hother⟩ := Option.ite_none_right_eq_some.1 hother
  obtain rfl := Option.some.inj hkey
  obtain rfl := Option.some.inj hother
  exact fun heq => String.lt_irrefl _ (heq ▸ hlt)

/-- Revoking one kind, and not by force, takes out what is due of it. -/
lemma isRevoked_bit (kind : Resource) (now : Int) (entry : Entry) :
    entry.isRevoked kind.bit false now
      = (decide (entry.index = kind.index) && decide (entry.endTime ≤ now)) := by
  have := kind.index_mem
  rw [Entry.isRevoked_eq, Resource.bit, Mask.getLsbD_bit, Bool.false_or]
  grind

/-- The losses when one kind is reaped: one for each exemption from it that has ended. -/
lemma fst_reapKeys_expiredKeys (htable : table.WellFormed) (hreach : table.InReach code now kind) :
    (reapKeys table kind.bit now (table.expiredKeys kind code now)).1
      = table.losses code now kind := by
  obtain ⟨hreaped, -⟩ := reapKeys_spec kind.bit now (expiredKeys_nodup table kind code now) htable
  rw [hreaped, losses, held_eq, List.filter_flatMap, List.map_flatMap, expiredKeys,
    List.filterMap_eq_flatMap_toList, List.flatMap_assoc, Table.values, List.flatMap_map]
  simp only [isRevoked_bit]
  refine List.flatMap_congr (fun entry hmem => ?_)
  have hget := Table.mem_entries.1 hmem
  have hsound := (htable.sound _ _ hget).2
  by_cases hcode : entry.2.reasonCode = code.number
  · rw [if_pos hcode, ← hsound.loss_eq]
    by_cases hexpired : entry.2.standing kind code now = .expired
    · rw [if_pos hexpired, Option.toList_some, List.flatMap_singleton, hget, Option.bind_some]
    · have hentries := hreach.of_get? hget hcode
      rw [if_neg hexpired, Record.loss_of_forall (hsound.due_eq_false hcode hentries hexpired)]
      rfl
  · rw [Record.standing_of_ne hcode, if_neg hcode]
    rfl

/-- The table when one kind was reaped. -/
lemma snd_reapKeys_expiredKeys (htable : table.WellFormed) (hreach : table.InReach code now kind) :
    (reapKeys table kind.bit now (table.expiredKeys kind code now)).2
      = table.reaped code
        (fun entry => entry.index = kind.index && decide (entry.endTime ≤ now)) := by
  refine Table.ext_get? (fun key => ?_)
  rw [(reapKeys_spec kind.bit now (expiredKeys_nodup table kind code now) htable).2, get?_reaped]
  simp only [isRevoked_bit]
  cases hget : table.get? key with
  | none => simp
  | some record =>
    have hwell := (htable key record hget).2
    rw [Option.bind_some, Option.bind_some]
    by_cases hcode : record.reasonCode = code.number
    · rw [if_pos hcode]
      split
      case isTrue => rfl
      case isFalse hkey =>
        have hstanding : record.standing kind code now ≠ .expired :=
          fun hexpired => hkey (mem_expiredKeys.2 ⟨record, hget, hexpired⟩)
        refine (Record.left_of_forall hwell (fun entry hmem => ?_)).symm
        rw [hwell.toSound.due_eq_false hcode (hreach.of_get? hget hcode) hstanding entry hmem,
          Bool.not_false]
    · have hkey : key ∉ table.expiredKeys kind code now := by
        rw [mem_expiredKeys, hget]
        rintro ⟨found, heq, hexpired⟩
        obtain rfl := Option.some.inj heq
        rw [Record.standing_of_ne hcode] at hexpired
        cases hexpired
      rw [if_neg hkey, if_neg hcode]

/-! ## All kinds -/

lemma reaped_wellFormed (htable : table.WellFormed) (code : ReasonCode) (gone : Entry → Bool) :
    (table.reaped code gone).WellFormed := by
  intro key record hget
  rw [get?_reaped, Option.bind_eq_some_iff] at hget
  obtain ⟨old, hold, hrest⟩ := hget
  obtain ⟨hkey, hwell⟩ := htable key old hold
  split at hrest
  case isTrue =>
    unfold Record.left at hrest
    split at hrest
    case isTrue => cases hrest
    case isFalse hsome =>
      obtain rfl := Option.some.inj hrest
      exact ⟨hkey, hwell.keepOnly _ hsome⟩
  case isFalse =>
    obtain rfl := Option.some.inj hrest
    exact ⟨hkey, hwell⟩

lemma scan_cons (code : ReasonCode) (now : Int) (kind : Resource) (kinds : List Resource)
    (table : RecordTable) :
    let reaping := reapKeys table kind.bit now (table.expiredKeys kind code now)
    let rest := scan code now kinds reaping.2
    scan code now (kind :: kinds) table
      = (table.live kind code now ++ rest.1, reaping.1 ++ rest.2.1, rest.2.2) := rfl

/-- Going through different kinds one after the other comes to reading the answer off the table as
it is and reaping all kinds at once. -/
lemma scan_eq (code : ReasonCode) (now : Int) {kinds : List Resource} (hkinds : kinds.Nodup)
    (htable : table.WellFormed) (hreach : ∀ kind ∈ kinds, table.InReach code now kind) :
    scan code now kinds table
      = (kinds.flatMap (table.lines code now), kinds.flatMap (table.losses code now),
        table.reaped code (fun entry =>
          kinds.any (fun kind => entry.index = kind.index) && decide (entry.endTime ≤ now))) := by
  induction kinds generalizing table with
  | nil =>
    have hnothing : table.reaped code (fun entry =>
        ([] : List Resource).any (fun kind => entry.index = kind.index)
          && decide (entry.endTime ≤ now)) = table := reaped_of_none htable (fun _ => rfl)
    rw [hnothing]
    rfl
  | cons kind kinds ih =>
    obtain ⟨hnew, hrest⟩ := List.nodup_cons.1 hkinds
    -- What is reaped of this kind is not of the kinds that are still to come.
    have hheld : ∀ other ∈ kinds, (table.reaped code (fun entry =>
        entry.index = kind.index && decide (entry.endTime ≤ now))).held code other
          = table.held code other := by
      intro other hmem
      refine held_reaped (fun entry hplace => ?_)
      have hne : entry.index ≠ kind.index := fun heq =>
        hnew (Resource.index_injective (hplace.symm.trans heq) ▸ hmem)
      rw [decide_eq_false hne, Bool.false_and]
    have hkind : table.InReach code now kind := hreach kind List.mem_cons_self
    have hothers : ∀ other ∈ kinds, (table.reaped code (fun entry =>
        entry.index = kind.index && decide (entry.endTime ≤ now))).InReach code now other := by
      intro other hmem
      rw [InReach, hheld other hmem]
      exact hreach other (List.mem_cons_of_mem _ hmem)
    rw [scan_cons, fst_reapKeys_expiredKeys htable hkind, snd_reapKeys_expiredKeys htable hkind,
      ih hrest (reaped_wellFormed htable code _) hothers, live_eq htable.sound hkind, reaped_reaped]
    refine Prod.ext ?_ (Prod.ext ?_ ?_)
    · refine congrArg (table.lines code now kind ++ ·) (List.flatMap_congr (fun other hmem => ?_))
      rw [lines, lines, hheld other hmem]
    · refine congrArg (table.losses code now kind ++ ·) (List.flatMap_congr (fun other hmem => ?_))
      rw [losses, losses, hheld other hmem]
    · simp only [List.any_cons, Bool.and_or_distrib_right]

/-- What is left under a reason code when it is reaped depends on what was there under it. -/
lemma carrying_reaped (table : RecordTable) (code : ReasonCode) (gone : Entry → Bool) :
    (table.reaped code gone).carrying code = (table.carrying code).reaped code gone := by
  refine Table.ext_get? (fun key => ?_)
  rw [carrying, Table.get?_filterMap, get?_reaped, get?_reaped, carrying, Table.get?_filterMap]
  cases Table.get? table key with
  | none => rfl
  | some record =>
    by_cases hcode : record.reasonCode = code.number
    · simp only [Option.bind_some, if_pos hcode]
      cases hleft : record.left (fun entry => !gone entry) with
      | none => rfl
      | some rest => rw [Option.bind_some, if_pos ((Record.reasonCode_left hleft).trans hcode)]
    · simp only [Option.bind_some, if_neg hcode, Option.bind_none]

/-- Every line on a kind is about an exemption that goes on, in a record that carries the reason
code. -/
lemma mem_lines {line : Allowance} (h : line ∈ table.lines code now kind) :
    ∃ key record entry, table.get? key = some record ∧ record.reasonCode = code.number ∧
      entry ∈ record.entries ∧ entry.index = kind.index ∧ now < entry.endTime ∧
      line = Allowance.of kind record.name (entry.endTime - now) := by
  obtain ⟨held, hheld, rfl⟩ := List.mem_map.1 h
  obtain ⟨hmem, hlater⟩ := List.mem_filter.1 hheld
  rw [held_eq] at hmem
  obtain ⟨record, hrecord, hholding⟩ := List.mem_flatMap.1 hmem
  obtain ⟨key, hget⟩ := Table.mem_values.1 hrecord
  split at hholding
  case isTrue hcode =>
    obtain ⟨entry, hentry, rfl⟩ := List.mem_map.1 hholding
    obtain ⟨hentry, hindex⟩ := List.mem_filter.1 hentry
    exact ⟨key, record, entry, hget, hcode, hentry, of_decide_eq_true hindex,
      of_decide_eq_true hlater, rfl⟩
  case isFalse => cases hholding

end RecordTable

/-! ## Answers -/

namespace Admission

variable {a : Admission}

/-- Settling losses does not change who is exempted for good. -/
lemma persistentList_settle (a : Admission) (table : RecordTable) (losses : List Revoked)
    (mask : Mask) (code : ReasonCode) (isAllow : Bool) :
    (a.settle table losses).persistentList mask code isAllow =
      a.persistentList mask code isAllow := by
  have hpolicy : (a.settle table losses).policy = a.policy := (a.settle_settles table losses).policy
  have hwall : (a.settle table losses).host.wall = a.host.wall := by
    rw [settle_frame (fun a => a.host.wall) (fun _ _ _ _ => ?_), settled_host]
    · split <;> rfl
    · exact Host.announce_wall _ _
  unfold persistentList condition
  rw [hpolicy, hwall]

/-- The answer to a question that names a kind, and what becomes of the table. -/
lemma allowList_eq (htable : a.table.WellFormed) {raw : Mask} (hnames : raw &&& Mask.known ≠ 0)
    {code : ReasonCode} (hreach : ∀ kind ∈ raw.kinds, a.table.InReach code a.host.now kind) :
    a.allowList raw code
      = (.ok (raw.kinds.flatMap (a.table.lines code a.host.now)
          ++ a.persistentList (raw &&& Mask.known) code true),
        a.settle (a.table.reaped code (fun entry => raw.getLsbD entry.index
            && decide (entry.endTime ≤ a.host.now)))
          (raw.kinds.flatMap (a.table.losses code a.host.now))) := by
  have hscan := RecordTable.scan_eq code a.host.now raw.kinds_nodup htable hreach
  -- All entries stand at places of kinds, so the places of the kinds are the places of the mask.
  have hreaped : a.table.reaped code (fun entry =>
        raw.kinds.any (fun kind => entry.index = kind.index)
          && decide (entry.endTime ≤ a.host.now))
      = a.table.reaped code (fun entry => raw.getLsbD entry.index
          && decide (entry.endTime ≤ a.host.now)) := by
    refine RecordTable.reaped_congr (fun key record hget entry hmem => ?_)
    have hknown := (htable key record hget).2.known entry hmem
    obtain ⟨kind, hkind⟩ : ∃ kind : Resource, kind.index = entry.index :=
      Resource.exists_index (by omega)
    have hplace : raw.kinds.any (fun kind => entry.index = kind.index)
        = raw.getLsbD entry.index := by
      rw [Bool.eq_iff_iff, List.any_eq_true, ← hkind, ← Mask.mem_kinds]
      constructor
      · rintro ⟨other, hother, hsame⟩
        rwa [Resource.index_injective (of_decide_eq_true hsame)]
      · exact fun hmem => ⟨kind, hmem, by simp⟩
    rw [hplace]
  rw [hreaped] at hscan
  rw [allowList, requested_of_names hnames]
  dsimp only
  rw [Mask.kinds_known, hscan]
  refine Prod.ext ?_ rfl
  exact congrArg (fun list => Except.ok (_ ++ list)) (persistentList_settle a _ _ _ _ _)

end Admission

/-- From a well-formed table in which all ends that are asked for are in reach, a question that names
a kind is answered, kind by kind in the order of the bits, with the exemptions that go on in the records that carry the reason code, in the order of
the keys and with the time that is left, and after them with the names that the policy allows for
good.  What has ended of the kinds that are asked for, in these records, is taken out of the table,
and nothing else; each such exemption is told and put on record as a loss of its own, and the table
is saved once if there was any.

Every line that is not for good tells of an exemption that goes on, whatever became of the timers;
and neither the answer nor what it changes depends on records with another reason code. -/
theorem allow_list_tells_what_goes_on (a : Admission) (raw : Mask) (code : ReasonCode)
    (htable : a.table.WellFormed) (hnames : raw &&& Mask.known ≠ 0)
    (hreach : ∀ kind ∈ raw.kinds, a.table.InReach code a.host.now kind) :
    let now := a.host.now
    let going := fun kind : Resource =>
      ((a.table.held code kind).filter (fun held => now < held.entry.endTime)).map
        (fun held => Allowance.of kind held.name (held.entry.endTime - now))
    let persistent := fun kind : Resource =>
      (a.policy.persistent kind.name a.condition true code.isApp).map
        (fun name => Allowance.of kind name (-1))
    let losses := raw.kinds.flatMap (fun kind =>
      ((a.table.held code kind).filter (fun held => held.entry.endTime ≤ now)).map
        (fun held => (⟨held.uid, held.name, kind.bit⟩ : Revoked)))
    let after := (a.allowList raw code).2
    (a.allowList raw code).1
      = .ok (raw.kinds.flatMap going ++ raw.kinds.flatMap persistent) ∧
    raw.kinds.Pairwise (fun kind other => kind.index < other.index) ∧
    (∀ kind, kind ∈ raw.kinds ↔ raw.getLsbD kind.index = true) ∧
    after.table = a.table.reaped code
      (fun entry => raw.getLsbD entry.index && decide (entry.endTime ≤ now)) ∧
    Admission.Settles losses a after ∧
    (∀ kind, ∀ line ∈ going kind, ∃ key record entry, a.table.get? key = some record ∧
      record.reasonCode = code.number ∧ entry ∈ record.entries ∧ entry.index = kind.index ∧
      now < entry.endTime ∧ line = Allowance.of kind record.name (entry.endTime - now)) ∧
    ∀ b : Admission, b.table.WellFormed → b.policy = a.policy → b.host = a.host →
      b.table.carrying code = a.table.carrying code →
      (b.allowList raw code).1 = (a.allowList raw code).1 ∧
      Admission.Settles losses b (b.allowList raw code).2 ∧
      (b.allowList raw code).2.table.carrying code = after.table.carrying code := by
  intro now going persistent losses after
  have hanswer := Admission.allowList_eq htable hnames hreach
  have hpersistent : ∀ b : Admission, b.policy = a.policy → b.host = a.host →
      b.persistentList (raw &&& Mask.known) code true = raw.kinds.flatMap persistent := by
    intro b hpolicy hhost
    rw [Admission.persistentList, Mask.kinds_known, Admission.condition, hpolicy, hhost]
    rfl
  have htaken : after.table = a.table.reaped code
      (fun entry => raw.getLsbD entry.index && decide (entry.endTime ≤ now)) := by
    simp only [after, hanswer, Admission.settle_table, now]
  refine ⟨?_, raw.kinds_pairwise, fun kind => Mask.mem_kinds, htaken, ?_, ?_, ?_⟩
  · rw [hanswer, hpersistent a rfl rfl]
    rfl
  · simp only [after, hanswer]
    exact a.settle_settles _ losses
  · intro kind line hline
    exact RecordTable.mem_lines hline
  · intro b hother hpolicy hhost hcarrying
    have hheld : b.table.held code = a.table.held code := by
      funext kind
      rw [RecordTable.held, RecordTable.held, hcarrying]
    have hlines : b.table.lines code b.host.now = a.table.lines code a.host.now := by
      funext kind
      rw [RecordTable.lines, RecordTable.lines, hheld, hhost]
    have hlosses : raw.kinds.flatMap (b.table.losses code b.host.now) = losses := by
      have hsame : b.table.losses code b.host.now = a.table.losses code a.host.now := by
        funext kind
        rw [RecordTable.losses, RecordTable.losses, hheld, hhost]
      rw [hsame]
      rfl
    have hothers : ∀ kind ∈ raw.kinds, b.table.InReach code b.host.now kind := by
      intro kind hkind
      rw [RecordTable.InReach, hheld, hhost]
      exact hreach kind hkind
    rw [Admission.allowList_eq hother hnames hothers, hlosses]
    refine ⟨?_, b.settle_settles _ losses, ?_⟩
    · rw [hanswer, hlines, hpersistent b hpolicy hhost, hpersistent a rfl rfl]
    · rw [Admission.settle_table, htaken, RecordTable.carrying_reaped, RecordTable.carrying_reaped,
        hcarrying, hhost]

/-- When the exemption of `mail` from the network has ended and its timer was not heeded, those who
ask for all kinds are told of scheduled work alone, and the exemption from the network is taken out.
They are told the same if a native process is exempted too. -/
theorem allow_list_tells_what_goes_on_for_mail :
    let native := { mailRequest with name := "sync", reasonCode := .native,
                                     mask := Resource.workScheduler.bit }
    let a := Admission.forMail.run [.operate (.grant mailRequest 77), .advance 60000]
    let both := Admission.forMail.run [.operate (.grant mailRequest 77),
      .operate (.grant native 78), .advance 60000]
    let b := { a with table := both.table }
    let answer := Except.ok [⟨Resource.workScheduler.bit, "mail", 540000⟩]
    (a.allowList (BitVec.allOnes 32) .app).1 = answer ∧
      (a.allowList (BitVec.allOnes 32) .app).2.entriesOf 10001 "mail" = [⟨4, 600000, "sync"⟩] ∧
      Admission.Settles [⟨10001, "mail", Resource.network.bit⟩] a
        (a.allowList (BitVec.allOnes 32) .app).2 ∧
      b.table.size = 2 ∧ (b.allowList (BitVec.allOnes 32) .app).1 = answer := by
  intro native a both b answer
  have htable : a.table.WellFormed := Admission.run_wellFormed _ _ .empty
  have hother : b.table.WellFormed :=
    Admission.run_wellFormed Admission.forMail [.operate (.grant mailRequest 77),
      .operate (.grant native 78), .advance 60000] .empty
  have hreach : ∀ kind ∈ Mask.kinds (BitVec.allOnes 32),
      a.table.InReach .app a.host.now kind := by
    unfold RecordTable.InReach
    decide +kernel
  obtain ⟨hanswer, -, -, -, hsettles, -, hsame⟩ :=
    allow_list_tells_what_goes_on a (BitVec.allOnes 32) .app htable (by decide) hreach
  obtain ⟨hagain, -, -⟩ := hsame b hother rfl rfl (by decide +kernel)
  have hlist : (a.allowList (BitVec.allOnes 32) .app).1 = answer :=
    hanswer.trans (congrArg Except.ok (by decide +kernel))
  refine ⟨hlist, by decide +kernel, ?_, by decide +kernel, hagain.trans hlist⟩
  have hlosses : (Mask.kinds (BitVec.allOnes 32)).flatMap (a.table.losses .app a.host.now)
      = [⟨10001, "mail", Resource.network.bit⟩] := by decide +kernel
  rw [← hlosses]
  exact hsettles

/-- A millisecond after the clock began, in a table that says of the exemption of `mail` from the
network that it ended as long before as 64 bits can tell. -/
def Admission.forLongEnded : Admission :=
  { Admission.forMail with
    table := Table.empty.insert (recordKey 10001 "mail")
      { uid := 10001, pid := 77, name := "mail", mask := Resource.network.bit,
        reasonCode := ReasonCode.app.number, entries := [⟨1, Width.int64.least, "sync"⟩] }
    host := { timers := { now := 1 } } }

lemma Admission.forLongEnded_wellFormed : Admission.forLongEnded.table.WellFormed := by
  intro key record hget
  rw [forLongEnded, Table.get?_insert] at hget
  split at hget
  case isTrue hkey =>
    obtain rfl := Option.some.inj hget
    exact ⟨hkey.symm, ⟨by decide, by decide, by decide⟩, by decide, by decide⟩
  case isFalse => cases hget

/-- That exemption is listed with the greatest time there is, although it has ended, and it is not
taken out.  And when the queue takes nothing, an exemption that has ended is taken out and nobody is
told. -/
theorem long_ended_exemption_is_listed :
    let a := Admission.forLongEnded
    let b := Admission.forMail.run
      [.operate (.grant mailRequest 77), .advance 60000, .fail .post true]
    let reaped := (b.allowList Resource.network.bit .app).2
    (a.table.WellFormed ∧
      (∀ entry ∈ a.entriesOf 10001 "mail", entry.endTime ≤ a.host.now) ∧
      (a.allowList Resource.network.bit .app).1.toOption
        = some [⟨Resource.network.bit, "mail", Width.int64.greatest⟩] ∧
      (a.allowList Resource.network.bit .app).2.entriesOf 10001 "mail"
        = a.entriesOf 10001 "mail") ∧
    b.table.WellFormed ∧
      b.table.losses .app b.host.now .network = [⟨10001, "mail", Resource.network.bit⟩] ∧
      reaped.entriesOf 10001 "mail" = [⟨4, 600000, "sync"⟩] ∧
      reaped.host.queue.tasks = b.host.queue.tasks := by
  intro a b reaped
  refine ⟨⟨Admission.forLongEnded_wellFormed, ?_, ?_, ?_⟩, Admission.run_wellFormed _ _ .empty,
    ?_, ?_, ?_⟩
  all_goals decide +kernel

end DeviceStandby
