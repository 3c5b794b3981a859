/-!
# Finite maps with text keys

`Keyed α` holds at most one value per key and lists its entries in ascending order of the keys,
so two maps are equal exactly when they hold the same entries. The view is `get?`, and each
operation is pinned by an equation through it: `get?_insert`, `get?_erase`, `get?_empty`. `ofList`
keeps the last value written under a key.
-/

set_option autoImplicit false
set_option relaxedAutoImplicit false

namespace EtcdBackup

/-- The first value under `key` in a list of entries. -/
def Keyed.find? {α : Type} (key : String) : List (String × α) → Option α
  | [] => none
  | (k, v) :: rest => if k = key then some v else Keyed.find? key rest

/-- Writes `value` under `key`, before the first entry with a greater key. -/
def Keyed.insertEntry {α : Type} (key : String) (value : α) :
    List (String × α) → List (String × α)
  | [] => [(key, value)]
  | (k, v) :: rest =>
    if key < k then (key, value) :: (k, v) :: rest
    else if k = key then (key, value) :: rest
    else (k, v) :: Keyed.insertEntry key value rest

/-- The keys of the entries ascend strictly. -/
def Keyed.Ascending {α : Type} (entries : List (String × α)) : Prop :=
  entries.Pairwise fun a b ↦ a.1 < b.1

theorem Keyed.mem_insertEntry {α : Type} {key : String} {value : α}
    {entries : List (String × α)} {e : String × α}
    (h : e ∈ Keyed.insertEntry key value entries) : e = (key, value) ∨ e ∈ entries := by
  induction entries with
  | nil => simpa [insertEntry] using h
  | cons head rest ih =>
    obtain ⟨k, v⟩ := head
    simp only [insertEntry] at h
    split at h
    · simpa using h
    · split at h
      · rcases List.mem_cons.1 h with h | h
        · exact .inl h
        · exact .inr (List.mem_cons_of_mem _ h)
      · rcases List.mem_cons.1 h with h | h
        · exact .inr (h ▸ List.mem_cons_self)
        · exact (ih h).imp id (List.mem_cons_of_mem _)

theorem Keyed.Ascending.insertEntry {α : Type} {entries : List (String × α)}
    (h : Keyed.Ascending entries) (key : String) (value : α) :
    Keyed.Ascending (Keyed.insertEntry key value entries) := by
  induction entries with
  | nil => exact List.pairwise_singleton _ _
  | cons head rest ih =>
    obtain ⟨k, v⟩ := head
    obtain ⟨first, others⟩ := List.pairwise_cons.1 h
    simp only [Keyed.insertEntry]
    split
    case isTrue lt =>
      refine List.pairwise_cons.2 ⟨fun e he ↦ ?_, h⟩
      rcases List.mem_cons.1 he with rfl | he
      · exact lt
      · exact String.lt_trans lt (first e he)
    case isFalse notLt =>
      split
      case isTrue eq =>
        subst eq
        exact List.pairwise_cons.2 ⟨first, others⟩
      case isFalse ne =>
        refine List.pairwise_cons.2 ⟨fun e he ↦ ?_, ih others⟩
        rcases Keyed.mem_insertEntry he with rfl | he
        · exact String.not_le.1 fun le ↦ ne (String.le_antisymm (String.not_lt.1 notLt) le)
        · exact first e he

/-- A finite map from text to `α` whose entries ascend by key. -/
@[ext] structure Keyed (α : Type) where
  /-- The entries in ascending order of the keys. -/
  entries : List (String × α)
  /-- Each key occurs once, after all smaller ones. -/
  ascending : Keyed.Ascending entries
  deriving DecidableEq

namespace Keyed

variable {α β : Type}

/-- The map without entries. -/
def empty : Keyed α := ⟨[], List.Pairwise.nil⟩

instance : EmptyCollection (Keyed α) := ⟨empty⟩

instance : Inhabited (Keyed α) := ⟨empty⟩

/-- The value under a key. -/
def get? (m : Keyed α) (key : String) : Option α := find? key m.entries

/-- The map with `value` under `key`, whatever stood there before. -/
def insert (m : Keyed α) (key : String) (value : α) : Keyed α :=
  ⟨insertEntry key value m.entries, m.ascending.insertEntry key value⟩

/-- The map of a list of entries; of two entries with one key the later counts. -/
def ofList (entries : List (String × α)) : Keyed α :=
  entries.foldl (fun m e ↦ m.insert e.1 e.2) empty

/-- The keys in ascending order. -/
def keys (m : Keyed α) : List String := m.entries.map (·.1)

/-- The values in ascending order of their keys. -/
def values (m : Keyed α) : List α := m.entries.map (·.2)

/-- Whether a key has a value. -/
def contains (m : Keyed α) (key : String) : Bool := (m.get? key).isSome

/-- Whether there is no entry. -/
def isEmpty (m : Keyed α) : Bool := m.entries.isEmpty

/-- The map without the entry of a key. -/
def erase (m : Keyed α) (key : String) : Keyed α :=
  ⟨m.entries.filter (·.1 ≠ key), m.ascending.filter _⟩

theorem find?_insertEntry (key other : String) (value : α) (entries : List (String × α)) :
    find? other (insertEntry key value entries) =
      if key = other then some value else find? other entries := by
  induction entries with
  | nil => simp [insertEntry, find?]
  | cons head rest ih =>
    obtain ⟨k, v⟩ := head
    simp only [insertEntry]
    split
    · simp [find?]
    · split
      case isTrue eq => subst eq; by_cases h : k = other <;> simp [find?, h]
      case isFalse ne =>
        by_cases hk : k = other
        · subst hk
          simp [find?, Ne.symm ne]
        · simp [find?, hk, ih]

@[simp] theorem get?_empty (key : String) : (empty : Keyed α).get? key = none := rfl

@[simp] theorem get?_insert (m : Keyed α) (key other : String) (value : α) :
    (m.insert key value).get? other = if key = other then some value else m.get? other :=
  find?_insertEntry key other value m.entries

theorem find?_filter_ne (key other : String) (entries : List (String × α)) :
    find? other (entries.filter (·.1 ≠ key)) =
      if key = other then none else find? other entries := by
  induction entries with
  | nil => simp [find?]
  | cons head rest ih =>
    obtain ⟨k, v⟩ := head
    by_cases hk : k = key
    · subst hk
      by_cases h : k = other
      · simpa [h] using ih
      · simpa [find?, h] using ih
    · rw [List.filter_cons_of_pos (by simpa using hk)]
      simp only [find?, ih]
      by_cases h : k = other
      · subst h
        simp [Ne.symm hk]
      · simp [h]

@[simp] theorem get?_erase (m : Keyed α) (key other : String) :
    (m.erase key).get? other = if key = other then none else m.get? other :=
  find?_filter_ne key other m.entries

end Keyed

end EtcdBackup
