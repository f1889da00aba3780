/-!
# Tables ordered by name

A `Table α` is a finite map from names to values that lists its entries in increasing order of the
names.  The order is part of the type: `sorted` says that the names increase strictly, so a name
occurs at most once and two tables with the same entries are equal.  Names are compared character
by character, which is also the order of their bytes in UTF-8.

`get?`, `insert` and `erase` read and change one name; `get?_insert` and `get?_erase` say what each
of them does to every other name.
-/

namespace DeviceStandby

universe u v

/-- A finite map from names to values, listed in increasing order of the names. -/
structure Table (α : Type u) where
  /-- The names with their values, in order. -/
  entries : List (String × α)
  /-- The names increase strictly. -/
  sorted : entries.Pairwise (fun a b => a.1 < b.1)
deriving Repr

namespace Table

variable {α : Type u} {β : Type v}

/-! ## Entry lists -/

/-- The value listed under `name`, if any. -/
def lookup (name : String) : List (String × α) → Option α
  | [] => none
  | (key, value) :: rest => if key = name then some value else lookup name rest

/-- Puts `value` under `name`, in place of an older value, and keeps the order. -/
def place (name : String) (value : α) : List (String × α) → List (String × α)
  | [] => [(name, value)]
  | (key, old) :: rest =>
    if name < key then (name, value) :: (key, old) :: rest
    else if name = key then (name, value) :: rest
    else (key, old) :: place name value rest

/-- After `place` there is the new entry, and else nothing that was not there before. -/
theorem mem_place {name : String} {value : α} {entry : String × α} {list : List (String × α)}
    (h : entry ∈ place name value list) : entry = (name, value) ∨ entry ∈ list := by
  induction list with
  | nil => exact Or.inl (by simpa [place] using h)
  | cons head rest ih =>
    obtain ⟨key, old⟩ := head
    unfold place at h
    split at h
    · simpa using h
    · split at h
      · rcases List.mem_cons.1 h with h | h
        · exact Or.inl h
        · exact Or.inr (List.mem_cons_of_mem _ h)
      · rcases List.mem_cons.1 h with h | h
        · exact Or.inr (h ▸ List.mem_cons_self)
        · exact (ih h).imp id (List.mem_cons_of_mem _)

/-- Putting an entry in its place keeps the list in order. -/
theorem place_sorted (name : String) (value : α) {list : List (String × α)}
    (h : list.Pairwise (fun a b => a.1 < b.1)) :
    (place name value list).Pairwise (fun a b => a.1 < b.1) := by
  induction list with
  | nil => exact List.pairwise_singleton _ _
  | cons head rest ih =>
    obtain ⟨key, old⟩ := head
    have hrest : ∀ entry ∈ rest, key < entry.1 := fun entry mem =>
      List.rel_of_pairwise_cons h mem
    unfold place
    split
    case isTrue hlt =>
      refine List.Pairwise.cons (fun entry mem => ?_) h
      rcases List.mem_cons.1 mem with mem | mem
      · exact mem ▸ hlt
      · exact String.lt_trans hlt (hrest entry mem)
    case isFalse hnlt =>
      split
      case isTrue heq =>
        subst heq
        exact List.Pairwise.cons (hrest) h.of_cons
      case isFalse hne =>
        refine List.Pairwise.cons (fun entry mem => ?_) (ih h.of_cons)
        rcases mem_place mem with mem | mem
        · subst mem
          apply String.not_le.1
          exact fun hle => hne (String.le_antisymm hle (String.not_lt.1 hnlt))
        · exact hrest entry mem

/-- After `place` the new value is found under its name, and every other name keeps its value. -/
theorem lookup_place (name other : String) (value : α) (list : List (String × α)) :
    lookup other (place name value list)
      = if name = other then some value else lookup other list := by
  induction list with
  | nil => rfl
  | cons head rest ih =>
    obtain ⟨key, old⟩ := head
    unfold place
    split
    · rfl
    · split
      case isTrue heq => subst heq; by_cases h : name = other <;> simp [lookup, h]
      case isFalse hne =>
        by_cases hk : key = other
        · have : name ≠ other := fun h => hne (h.trans hk.symm)
          simp [lookup, hk, this]
        · simp [lookup, hk, ih]

/-- Once its entries are filtered out, a name is not found, and every other name keeps its value. -/
theorem lookup_filter (name other : String) (list : List (String × α)) :
    lookup other (list.filter (fun entry => entry.1 ≠ name))
      = if name = other then none else lookup other list := by
  induction list with
  | nil => simp [lookup]
  | cons head rest ih =>
    obtain ⟨key, old⟩ := head
    rw [List.filter_cons]
    by_cases hk : key = name
    · subst hk
      by_cases ho : key = other <;> simp_all [lookup]
    · by_cases ho : key = other
      · have : name ≠ other := fun h => hk (ho.trans h.symm)
        simp_all [lookup]
      · simp_all [lookup]

/-! ## Operations -/

/-- The table with no entries. -/
def empty : Table α := ⟨[], List.Pairwise.nil⟩

instance : EmptyCollection (Table α) := ⟨empty⟩

instance : Inhabited (Table α) := ⟨empty⟩

/-- The value under `name`, if any. -/
def get? (table : Table α) (name : String) : Option α := lookup name table.entries

/-- The table with `value` under `name`, in place of an older value. -/
def insert (table : Table α) (name : String) (value : α) : Table α :=
  ⟨place name value table.entries, place_sorted name value table.sorted⟩

/-- The table without `name`. -/
def erase (table : Table α) (name : String) : Table α :=
  ⟨table.entries.filter (fun entry => entry.1 ≠ name), table.sorted.sublist List.filter_sublist⟩

/-- The table of a list of entries; of two entries with one name the later wins. -/
def ofList (list : List (String × α)) : Table α :=
  list.foldl (fun table entry => table.insert entry.1 entry.2) empty

/-- The names, in order. -/
def keys (table : Table α) : List String := table.entries.map (·.1)

/-- The values, in the order of their names. -/
def values (table : Table α) : List α := table.entries.map (·.2)

/-- The number of entries. -/
def size (table : Table α) : Nat := table.entries.length

/-- Whether there is no entry. -/
def isEmpty (table : Table α) : Bool := table.entries.isEmpty

/-- The table with every value changed by `f`. -/
def map (f : α → β) (table : Table α) : Table β :=
  ⟨table.entries.map (fun entry => (entry.1, f entry.2)),
    List.pairwise_map.2 (table.sorted.imp (fun h => h))⟩

/-- Nothing is found in the empty table. -/
@[simp] theorem get?_empty (name : String) : (empty : Table α).get? name = none := rfl

/-- A value put under `name` is found there and nowhere else. -/
theorem get?_insert (table : Table α) (name other : String) (value : α) :
    (table.insert name value).get? other
      = if name = other then some value else table.get? other :=
  lookup_place name other value table.entries

/-- An erased name is gone and every other name keeps its value. -/
theorem get?_erase (table : Table α) (name other : String) :
    (table.erase name).get? other = if name = other then none else table.get? other :=
  lookup_filter name other table.entries

/-- Tables with the same entries are equal. -/
@[ext] theorem ext {a b : Table α} (h : a.entries = b.entries) : a = b := by
  cases a; cases b; cases h; rfl

instance [DecidableEq α] : DecidableEq (Table α) := fun a b =>
  if h : a.entries = b.entries then isTrue (ext h) else isFalse (fun e => h (e ▸ rfl))

end Table

end DeviceStandby
