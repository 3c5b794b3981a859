import EtcdBackup.Json.Parser
import EtcdBackup.Proofs.Lookup

/-!
# Ordered values

A value is `Ordered` if the members of all objects inside it ascend by key. All values that are read
from text are (`ordered_of_parse`).
-/

set_option autoImplicit false
set_option relaxedAutoImplicit false

namespace EtcdBackup.Json

/-- The members of each object inside the value ascend by key. -/
inductive Ordered : Json → Prop
  | null : Ordered .null
  | bool (value : Bool) : Ordered (.bool value)
  | number (value : Json.Number) : Ordered (.number value)
  | string (value : String) : Ordered (.string value)
  | array {items : List Json} (inside : ∀ j ∈ items, Ordered j) : Ordered (.array items)
  | object {members : List (String × Json)} (ascending : Keyed.Ascending members)
      (inside : ∀ e ∈ members, Ordered e.2) : Ordered (.object members)

variable {members fields : List (String × Json)} {key : String} {value j : Json}

theorem ordered_of_find? (inside : ∀ e ∈ members, Ordered e.2)
    (h : Keyed.find? key members = some value) : value.Ordered :=
  inside (key, value) (Keyed.mem_of_find? h)

/-- What stands under a key of an ordered value is ordered. -/
theorem Ordered.getD (h : j.Ordered) (key : String) : (j.getD key).Ordered := by
  unfold Json.getD
  cases hget : j.get? key with
  | none => exact .null
  | some value =>
    cases h with
    | object ascending inside => exact ordered_of_find? inside hget
    | null | bool | number | string | array => cases hget

/-- The members of an ordered value, if it is an object, ascend by key. -/
theorem Ordered.ascending (h : j.Ordered) : Keyed.Ascending (j.asObject?.getD []) := by
  cases h with
  | object ascending inside => exact ascending
  | null | bool | number | string | array => exact List.Pairwise.nil

theorem ordered_ofFields (h : ∀ e ∈ fields, e.2.Ordered) : (ofFields fields).Ordered :=
  .object (Keyed.ofList fields).ascending fun e he ↦ h e (Keyed.mem_of_mem_ofList he)

/-! ### Values that are read -/

/-- Whatever is read in at most so many steps is ordered, if that is so for what was read before. -/
structure ReadsOrdered (bound : Nat) : Prop where
  ofValue : ∀ {depth cs j rest}, readValue bound depth cs = some (j, rest) → j.Ordered
  ofItems : ∀ {depth acc cs j rest}, (∀ i ∈ acc, i.Ordered) →
    readItems bound depth acc cs = some (j, rest) → j.Ordered
  ofMembers : ∀ {depth acc cs j rest}, (∀ e ∈ acc, e.2.Ordered) →
    readMembers bound depth acc cs = some (j, rest) → j.Ordered

namespace ReadsOrdered

variable {bound depth : Nat} {cs rest : List Char}

theorem readValue_succ (ih : ReadsOrdered bound)
    (h : readValue (bound + 1) depth cs = some (j, rest)) : j.Ordered := by
  rw [readValue.eq_def] at h
  dsimp only at h
  split at h
  case h_1 =>
    cases h
    exact .null
  case h_2 | h_3 =>
    cases h
    exact .bool _
  case h_4 =>
    obtain ⟨read, -, hread⟩ := Option.map_eq_some_iff.1 h
    cases hread
    exact .string _
  case h_5 =>
    split at h
    case isTrue => cases h
    case isFalse =>
      split at h
      · cases h
        exact .array (List.forall_mem_nil _)
      · exact ih.ofItems (List.forall_mem_nil _) h
  case h_6 =>
    split at h
    case isTrue => cases h
    case isFalse =>
      split at h
      · cases h
        exact .object List.Pairwise.nil (List.forall_mem_nil _)
      · exact ih.ofMembers (List.forall_mem_nil _) h
  case h_7 =>
    obtain ⟨read, -, hread⟩ := Option.map_eq_some_iff.1 h
    cases hread
    exact .number _

theorem readItems_succ (ih : ReadsOrdered bound) {acc : List Json} (hacc : ∀ i ∈ acc, i.Ordered)
    (h : readItems (bound + 1) depth acc cs = some (j, rest)) : j.Ordered := by
  rw [readItems.eq_def] at h
  dsimp only at h
  split at h
  case h_1 => cases h
  case h_2 item behind hitem =>
    have hitems : ∀ i ∈ item :: acc, i.Ordered := List.forall_mem_cons.2 ⟨ih.ofValue hitem, hacc⟩
    split at h
    · exact ih.ofItems hitems h
    · cases h
      exact .array fun i hi ↦ hitems i (List.mem_reverse.1 hi)
    · cases h

theorem readMembers_succ (ih : ReadsOrdered bound) {acc : List (String × Json)}
    (hacc : ∀ e ∈ acc, e.2.Ordered)
    (h : readMembers (bound + 1) depth acc cs = some (j, rest)) : j.Ordered := by
  rw [readMembers.eq_def] at h
  dsimp only at h
  -- A key, a colon and a value have to be read before the list goes on or ends.
  split at h
  case h_2 => cases h
  split at h
  case h_1 => cases h
  case h_2 key _ _ =>
    split at h
    case h_2 => cases h
    split at h
    case h_1 => cases h
    case h_2 value _ hvalue =>
      have hmembers : ∀ e ∈ (key, value) :: acc, e.2.Ordered :=
        List.forall_mem_cons.2 ⟨ih.ofValue hvalue, hacc⟩
      split at h
      · exact ih.ofMembers hmembers h
      · cases h
        exact ordered_ofFields fun e he ↦ hmembers e (List.mem_reverse.1 he)
      · cases h

end ReadsOrdered

theorem readsOrdered (bound : Nat) : ReadsOrdered bound := by
  induction bound with
  | zero => exact ⟨nofun, nofun, nofun⟩
  | succ bound ih => exact ⟨ih.readValue_succ, ih.readItems_succ, ih.readMembers_succ⟩

/-- A value that is read from text is ordered. -/
theorem ordered_of_parse {text : String} (h : parse text = some j) : j.Ordered := by
  unfold parse at h
  dsimp only at h
  split at h
  case h_1 value rest hread =>
    split at h
    · cases h
      exact (readsOrdered _).ofValue hread
    · cases h
  case h_2 => cases h

end EtcdBackup.Json
