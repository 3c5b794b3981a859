import Mathlib.Data.List.Sort
import EtcdBackup.Keyed

/-!
# Lookups in lists of entries

`Keyed.find?` finds the first value under a key. In an ascending list there is no other one, so a
map is what its lookups say (`Keyed.ext_get?`), and a list with that order is the list of entries
of its map (`Keyed.ofList_of_ascending`).
-/

set_option autoImplicit false
set_option relaxedAutoImplicit false

namespace EtcdBackup.Keyed

variable {α β : Type} {entries others : List (String × α)} {key : String} {value : α}

theorem mem_of_find? (h : find? key entries = some value) : (key, value) ∈ entries := by
  induction entries with
  | nil => cases h
  | cons head rest ih =>
    obtain ⟨k, v⟩ := head
    simp only [find?] at h
    split at h
    case isTrue hkey =>
      cases h
      rw [hkey]
      exact List.mem_cons_self
    case isFalse => exact List.mem_cons_of_mem _ (ih h)

theorem mem_values_of_get? {m : Keyed α} (h : m.get? key = some value) : value ∈ m.values :=
  List.mem_map_of_mem (mem_of_find? h)

theorem isEmpty_eq_false_of_get? {m : Keyed α} (h : m.get? key = some value) :
    m.isEmpty = false :=
  List.isEmpty_eq_false_iff_exists_mem.2 ⟨_, mem_of_find? h⟩

theorem eq_empty_of_isEmpty {m : Keyed α} (h : m.isEmpty) : m = ∅ :=
  Keyed.ext (List.isEmpty_iff.1 h)

theorem find?_append (entries others : List (String × α)) (key : String) :
    find? key (entries ++ others) = (find? key entries).or (find? key others) := by
  induction entries with
  | nil => rfl
  | cons head rest ih =>
    by_cases hkey : head.1 = key
    · simp [find?, hkey]
    · simp [find?, hkey, ih]

theorem find?_map (f : String × α → β) (entries : List (String × α)) (key : String) :
    find? key (entries.map fun e ↦ (e.1, f e)) = (find? key entries).map fun v ↦ f (key, v) := by
  induction entries with
  | nil => rfl
  | cons head rest ih =>
    obtain ⟨k, v⟩ := head
    by_cases hkey : k = key
    · simp [find?, hkey]
    · simp [find?, hkey, ih]

/-- Only the keys count for the order. -/
theorem ascending_iff : Ascending entries ↔ (entries.map (·.1)).Pairwise (· < ·) :=
  List.pairwise_map.symm

theorem find?_eq_none_iff : find? key entries = none ↔ key ∉ entries.map (·.1) := by
  induction entries with
  | nil => simp [find?]
  | cons head rest ih =>
    rw [find?, List.map_cons, List.mem_cons, not_or, ← ih]
    by_cases hkey : head.1 = key
    · simp [hkey]
    · simp [hkey, Ne.symm hkey]

/-- If no key stands twice, the order of the entries does not matter. -/
theorem find?_reverse (distinct : (entries.map (·.1)).Nodup) (key : String) :
    find? key entries.reverse = find? key entries := by
  induction entries with
  | nil => rfl
  | cons head rest ih =>
    obtain ⟨k, v⟩ := head
    obtain ⟨new, others⟩ := List.nodup_cons.1 distinct
    rw [List.reverse_cons, find?_append, ih others]
    by_cases hkey : k = key
    · subst hkey
      rw [find?_eq_none_iff.2 new]
      simp [find?]
    · simp [find?, hkey]

namespace Ascending

/-- In an ascending list each entry is found under its key. -/
theorem find?_of_mem (h : Ascending entries) (hmem : (key, value) ∈ entries) :
    find? key entries = some value := by
  induction entries with
  | nil => cases hmem
  | cons head rest ih =>
    obtain ⟨first, others⟩ := List.pairwise_cons.1 h
    rcases List.mem_cons.1 hmem with rfl | hmem
    · exact if_pos rfl
    · have hlt := first _ hmem
      rw [find?, if_neg (String.ne_of_lt hlt)]
      exact ih others hmem

theorem mem_iff (h : Ascending entries) :
    (key, value) ∈ entries ↔ find? key entries = some value :=
  ⟨h.find?_of_mem, mem_of_find?⟩

theorem map (h : Ascending entries) (f : String × α → β) :
    Ascending (entries.map fun e ↦ (e.1, f e)) :=
  List.pairwise_map.2 h

/-- Ascending lists with the same lookups are the same. -/
theorem ext (h : Ascending entries) (h' : Ascending others)
    (same : ∀ key, find? key entries = find? key others) : entries = others := by
  have : Std.Irrefl fun a b : String × α ↦ a.1 < b.1 := ⟨fun a ↦ String.lt_irrefl a.1⟩
  refine List.Pairwise.eq_of_mem_iff h h' fun e ↦ ?_
  rw [h.mem_iff, h'.mem_iff, same]

theorem nodup_keys (h : Ascending entries) : (entries.map (·.1)).Nodup :=
  (ascending_iff.1 h).imp String.ne_of_lt

/-- Behind an entry its key does not stand again. -/
theorem find?_eq_none {head : String × α} (h : Ascending (head :: entries)) :
    find? head.1 entries = none :=
  find?_eq_none_iff.2 (List.nodup_cons.1 h.nodup_keys).1

/-- Writing what is there already changes nothing. -/
theorem insertEntry_eq_self (h : Ascending entries) (hfind : find? key entries = some value) :
    Keyed.insertEntry key value entries = entries := by
  refine (h.insertEntry key value).ext h fun other ↦ ?_
  rw [find?_insertEntry]
  split
  case isTrue hkey => rw [← hkey, hfind]
  case isFalse => rfl

end Ascending

/-- Maps with the same values are the same. -/
theorem ext_get? {m m' : Keyed α} (same : ∀ key, m.get? key = m'.get? key) : m = m' :=
  Keyed.ext (m.ascending.ext m'.ascending same)

theorem insert_eq_self {m : Keyed α} (h : m.get? key = some value) : m.insert key value = m :=
  Keyed.ext (m.ascending.insertEntry_eq_self h)

@[simp] theorem insert_insert (m : Keyed α) (key : String) (first second : α) :
    (m.insert key first).insert key second = m.insert key second :=
  ext_get? fun other ↦ by by_cases hkey : key = other <;> simp [hkey]

theorem mem_keys_iff {m : Keyed α} : key ∈ m.keys ↔ (m.get? key).isSome := by
  rw [Option.isSome_iff_ne_none, Ne, get?, find?_eq_none_iff, not_not, keys]

theorem mem_keys_insert_iff {m : Keyed α} {other : String} :
    other ∈ (m.insert key value).keys ↔ other = key ∨ other ∈ m.keys := by
  rw [mem_keys_iff, mem_keys_iff, get?_insert]
  by_cases hkey : key = other
  · simp [hkey]
  · simp [hkey, Ne.symm hkey]

/-- Of two entries with one key the later counts. -/
theorem get?_ofList (entries : List (String × α)) (key : String) :
    (ofList entries).get? key = find? key entries.reverse := by
  have general (m : Keyed α) : (entries.foldl (fun m e ↦ m.insert e.1 e.2) m).get? key =
      (find? key entries.reverse).or (m.get? key) := by
    induction entries generalizing m with
    | nil => rfl
    | cons head rest ih =>
      rw [List.foldl_cons, ih, List.reverse_cons, find?_append, Option.or_assoc, get?_insert]
      by_cases hkey : head.1 = key <;> simp [find?, hkey]
  rw [ofList, general empty, get?_empty, Option.or_none]

theorem mem_of_mem_ofList {e : String × α} (h : e ∈ (ofList entries).entries) : e ∈ entries := by
  have hfind := (get?_ofList entries e.1).symm.trans ((ofList entries).ascending.find?_of_mem h)
  exact List.mem_reverse.1 (mem_of_find? hfind)

/-- An ascending list is the list of entries of its map. -/
theorem ofList_of_ascending (h : Ascending entries) : ofList entries = ⟨entries, h⟩ := by
  refine ext_get? fun key ↦ ?_
  rw [get?_ofList, find?_reverse h.nodup_keys]
  rfl

end EtcdBackup.Keyed
