import DeviceStandby.Data.Table
import Mathlib.Data.List.Sort
import Mathlib.Tactic.Lemma

/-!
# Tables as finite maps

What the proofs about tables rest on.  The entries of a table and what is found in it determine each
other (`Table.mem_entries`), so tables in which the same is found are equal (`Table.ext_get?`).  Two
consequences are used throughout: writing back what is there changes nothing
(`Table.insert_get?`), and a sorted list is the list of entries of its table
(`Table.entries_ofList`).
-/

namespace DeviceStandby.Table

universe u v

variable {α : Type u} {β : Type v}

/-! ## Entries and look-up -/

lemma mem_of_lookup {name : String} {value : α} {list : List (String × α)}
    (h : lookup name list = some value) : (name, value) ∈ list := by
  induction list with
  | nil => simp [lookup] at h
  | cons head rest ih =>
    obtain ⟨key, old⟩ := head
    rw [lookup] at h
    split at h
    case isTrue heq =>
      obtain rfl : old = value := by simpa using h
      exact heq ▸ List.mem_cons_self
    case isFalse => exact List.mem_cons_of_mem _ (ih h)

/-- What is listed in a sorted list is found, because no other entry has its name. -/
lemma lookup_of_mem {name : String} {value : α} {list : List (String × α)}
    (hsorted : list.Pairwise (fun a b => a.1 < b.1)) (h : (name, value) ∈ list) :
    lookup name list = some value := by
  induction list with
  | nil => simp at h
  | cons head rest ih =>
    obtain ⟨key, old⟩ := head
    rcases List.mem_cons.1 h with h | h
    · obtain ⟨rfl, rfl⟩ := Prod.mk.inj h
      simp [lookup]
    · have hlt : key < name := List.rel_of_pairwise_cons hsorted h
      have hne : key ≠ name := fun heq => String.lt_irrefl name (heq ▸ hlt)
      simpa [lookup, hne] using ih hsorted.of_cons h

/-- The entries of a table are what is found in it. -/
lemma mem_entries {table : Table α} {name : String} {value : α} :
    (name, value) ∈ table.entries ↔ table.get? name = some value :=
  ⟨lookup_of_mem table.sorted, mem_of_lookup⟩

lemma mem_values {table : Table α} {value : α} :
    value ∈ table.values ↔ ∃ name, table.get? name = some value := by
  simp only [values, List.mem_map, Prod.exists, exists_eq_right, mem_entries]

lemma mem_keys {table : Table α} {name : String} :
    name ∈ table.keys ↔ (table.get? name).isSome = true := by
  rw [keys, List.mem_map, Option.isSome_iff_exists]
  constructor
  · rintro ⟨⟨key, value⟩, hmem, rfl⟩
    exact ⟨value, mem_entries.1 hmem⟩
  · rintro ⟨value, hget⟩
    exact ⟨(name, value), mem_entries.2 hget, rfl⟩

/-! ## Extensionality -/

/-- A list in order is determined by what is in it. -/
lemma eq_of_sorted (key : α → String) {list other : List α}
    (hlist : list.Pairwise (fun a b => key a < key b))
    (hother : other.Pairwise (fun a b => key a < key b)) (h : ∀ a, a ∈ list ↔ a ∈ other) :
    list = other := by
  have hnodup : ∀ list : List α, list.Pairwise (fun a b => key a < key b) → list.Nodup := by
    intro list hlist
    refine hlist.imp (fun {x y} hlt heq => ?_)
    exact String.lt_irrefl (key y) (heq ▸ hlt)
  have hperm := (List.perm_ext_iff_of_nodup (hnodup _ hlist) (hnodup _ hother)).2 h
  refine hperm.eq_of_pairwise (fun x y _ _ hxy hyx => ?_) hlist hother
  exact absurd (String.lt_trans hxy hyx) (String.lt_irrefl _)

/-- Tables in which the same is found are equal. -/
lemma ext_get? {a b : Table α} (h : ∀ name, a.get? name = b.get? name) : a = b := by
  refine ext (eq_of_sorted Prod.fst a.sorted b.sorted (fun entry => ?_))
  obtain ⟨name, value⟩ := entry
  rw [mem_entries, mem_entries, h name]

/-- Writing back what is there changes nothing. -/
lemma insert_get? {table : Table α} {name : String} {value : α}
    (h : table.get? name = some value) : table.insert name value = table := by
  refine ext_get? (fun other => ?_)
  rw [get?_insert]
  split
  case isTrue heq => rw [← heq, h]
  case isFalse => rfl

/-- Taking out what is not there changes nothing. -/
lemma erase_of_get?_none {table : Table α} {name : String} (h : table.get? name = none) :
    table.erase name = table := by
  refine ext_get? (fun other => ?_)
  rw [get?_erase]
  split
  case isTrue heq => rw [← heq, h]
  case isFalse => rfl

/-! ## Tables of lists -/

lemma place_of_forall_lt {name : String} {value : α} {list : List (String × α)}
    (h : ∀ entry ∈ list, entry.1 < name) : place name value list = list ++ [(name, value)] := by
  induction list with
  | nil => rfl
  | cons head rest ih =>
    obtain ⟨key, old⟩ := head
    have hlt : key < name := h (key, old) List.mem_cons_self
    have hne : name ≠ key := fun heq => String.lt_irrefl name (heq ▸ hlt)
    have hnlt : ¬ name < key := fun hgt => String.lt_irrefl _ (String.lt_trans hlt hgt)
    rw [place, if_neg hnlt, if_neg hne, ih (fun entry mem => h entry (List.mem_cons_of_mem _ mem))]
    rfl

/-- Inserting sorted entries that come after all others appends them. -/
lemma entries_foldl_insert {list : List (String × α)} (table : Table α)
    (hsorted : (table.entries ++ list).Pairwise (fun a b => a.1 < b.1)) :
    (list.foldl (fun table entry => table.insert entry.1 entry.2) table).entries
      = table.entries ++ list := by
  induction list generalizing table with
  | nil => simp
  | cons entry rest ih =>
    have hlast : (table.insert entry.1 entry.2).entries = table.entries ++ [entry] := by
      refine place_of_forall_lt (fun other mem => ?_)
      exact (List.pairwise_append.1 hsorted).2.2 other mem entry List.mem_cons_self
    rw [List.foldl_cons, ih _ (by simpa [hlast] using hsorted), hlast, List.append_assoc,
      List.singleton_append]

/-- A sorted list is the list of entries of its table. -/
lemma entries_ofList {list : List (String × α)}
    (hsorted : list.Pairwise (fun a b => a.1 < b.1)) : (ofList list).entries = list :=
  entries_foldl_insert empty hsorted

/-- The names of the table of a list are those that are listed. -/
lemma mem_keys_ofList {list : List (String × α)} {name : String} :
    name ∈ (ofList list).keys ↔ ∃ value, (name, value) ∈ list := by
  have hfold : ∀ table : Table α,
      name ∈ (list.foldl (fun table entry => table.insert entry.1 entry.2) table).keys ↔
        name ∈ table.keys ∨ ∃ value, (name, value) ∈ list := by
    induction list with
    | nil => simp
    | cons entry list ih =>
      intro table
      have hinserted : name ∈ (table.insert entry.1 entry.2).keys ↔
          name ∈ table.keys ∨ name = entry.1 := by
        rw [mem_keys, mem_keys, get?_insert]
        by_cases hname : entry.1 = name
        · simp [hname]
        · simp [hname, Ne.symm hname]
      rw [List.foldl_cons, ih, hinserted, or_assoc]
      refine or_congr_right ?_
      obtain ⟨key, value⟩ := entry
      simp only [List.mem_cons, Prod.mk.injEq, exists_or, exists_and_left, exists_eq, and_true]
  exact (hfold empty).trans (by simp [empty, keys])

/-- The table with every value changed by `f`, without the names whose values it has no use for. -/
def filterMap (f : α → Option β) (table : Table α) : Table β where
  entries := table.entries.filterMap (fun entry => (f entry.2).map (entry.1, ·))
  sorted := by
    refine List.pairwise_filterMap.2 (table.sorted.imp (fun {a b} hlt c hc d hd => ?_))
    obtain ⟨_, -, rfl⟩ := Option.map_eq_some_iff.1 hc
    obtain ⟨_, -, rfl⟩ := Option.map_eq_some_iff.1 hd
    exact hlt

lemma get?_filterMap (f : α → Option β) (table : Table α) (name : String) :
    (table.filterMap f).get? name = (table.get? name).bind f := by
  refine Option.ext (fun value => ?_)
  rw [← mem_entries, filterMap, List.mem_filterMap, Option.bind_eq_some_iff]
  constructor
  · rintro ⟨⟨key, old⟩, hmem, hvalue⟩
    obtain ⟨new, hnew, heq⟩ := Option.map_eq_some_iff.1 hvalue
    obtain ⟨rfl, rfl⟩ := Prod.mk.inj heq
    exact ⟨old, mem_entries.1 hmem, hnew⟩
  · rintro ⟨old, hget, hvalue⟩
    exact ⟨(name, old), mem_entries.2 hget, by rw [hvalue, Option.map_some]⟩

lemma values_filterMap (f : α → Option β) (table : Table α) :
    (table.filterMap f).values = table.values.filterMap f := by
  rw [values, values, filterMap, List.map_filterMap, List.filterMap_map]
  refine List.filterMap_congr (fun entry _ => ?_)
  cases h : f entry.2 <;> simp [h]

end DeviceStandby.Table
