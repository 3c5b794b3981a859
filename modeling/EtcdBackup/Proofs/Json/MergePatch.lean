import EtcdBackup.Proofs.Json.Ordered

/-!
# Merge patches

A merge patch changes an object member by member: null takes a member away, an object is merged
into the member, and anything else replaces it. Members that the patch does not name stay as they
are (`get?_mergePatch_of_none`), so a patch that leaves a member out does not remove it.
-/

set_option autoImplicit false
set_option relaxedAutoImplicit false

namespace EtcdBackup.Json

mutual

/-- What a patch makes of a value. -/
def mergePatch (target : Json) : Json → Json
  | .object changes => .object (mergeMembers (target.asObject?.getD []) changes)
  | patch => patch

/-- What the members of a patch make of the members of an object. -/
def mergeMembers (members : List (String × Json)) : List (String × Json) → List (String × Json)
  | [] => members
  | (key, value) :: rest =>
    mergeMembers
      (if value.isNull then members.filter (·.1 ≠ key)
        else Keyed.insertEntry key (mergePatch ((Keyed.find? key members).getD .null) value) members)
      rest

end

variable {members changes : List (String × Json)} {key : String} {value : Json} {j : Json}

/-- One member of a patch takes the member of its key away, or writes it. -/
theorem find?_change (removed : Bool) (key other : String) (value : Json)
    (members : List (String × Json)) :
    Keyed.find? other (if removed then members.filter (·.1 ≠ key)
        else Keyed.insertEntry key value members) =
      if key = other then if removed then none else some value
      else Keyed.find? other members := by
  cases removed
  · exact Keyed.find?_insertEntry key other value members
  · exact Keyed.find?_filter_ne key other members

/-- The members of a patch, in ascending order, say of each member of the result what it is. -/
theorem find?_mergeMembers (members : List (String × Json)) (h : Keyed.Ascending changes)
    (key : String) : Keyed.find? key (mergeMembers members changes) =
      match Keyed.find? key changes with
      | none => Keyed.find? key members
      | some value =>
        if value.isNull then none
        else some (((Keyed.find? key members).getD .null).mergePatch value) := by
  induction changes generalizing members with
  | nil => rfl
  | cons head rest ih =>
    obtain ⟨k, v⟩ := head
    rw [mergeMembers, ih _ (List.Pairwise.of_cons h), find?_change, Keyed.find?]
    by_cases hkey : k = key
    · subst hkey
      rw [h.find?_eq_none, if_pos rfl, if_pos rfl]
    · rw [if_neg hkey, if_neg hkey]

theorem ascending_mergeMembers (h : Keyed.Ascending members) (changes : List (String × Json)) :
    Keyed.Ascending (mergeMembers members changes) := by
  induction changes generalizing members with
  | nil => exact h
  | cons head rest ih =>
    rw [mergeMembers]
    split
    · exact ih (h.filter _)
    · exact ih (h.insertEntry _ _)

/-- What stands under a key once a patch is applied. -/
theorem get?_mergePatch (j : Json) (h : Keyed.Ascending changes) (key : String) :
    (j.mergePatch (.object changes)).get? key =
      match Keyed.find? key changes with
      | none => j.get? key
      | some value => if value.isNull then none else some ((j.getD key).mergePatch value) := by
  have hget (key : String) : Keyed.find? key (j.asObject?.getD []) = j.get? key := by
    cases j <;> rfl
  rw [mergePatch, get?, find?_mergeMembers _ h, hget]
  rfl

theorem get?_ofFields (fields : List (String × Json)) (key : String) :
    (ofFields fields).get? key = Keyed.find? key fields.reverse :=
  Keyed.get?_ofList fields key

/-- A member that the patch leaves out stays as it is. -/
theorem get?_mergePatch_of_none {fields : List (String × Json)}
    (h : (ofFields fields).get? key = none) :
    (j.mergePatch (ofFields fields)).get? key = j.get? key := by
  refine (j.get?_mergePatch (Keyed.ofList fields).ascending key).trans ?_
  rw [show Keyed.find? key (Keyed.ofList fields).entries = none from h]

theorem get?_mergePatch_of_some {fields : List (String × Json)}
    (h : (ofFields fields).get? key = some value) (hnull : value.isNull = false) :
    (j.mergePatch (ofFields fields)).get? key = some ((j.getD key).mergePatch value) := by
  refine (j.get?_mergePatch (Keyed.ofList fields).ascending key).trans ?_
  rw [show Keyed.find? key (Keyed.ofList fields).entries = some value from h]
  dsimp only
  rw [hnull]
  rfl

@[simp] theorem isNull_mergePatch (j patch : Json) :
    (j.mergePatch patch).isNull = patch.isNull := by
  cases patch <;> rfl

/-- A patch that only says what is there already changes nothing. -/
theorem mergePatch_eq_self (h : j.Ordered) {text : String} (hget : j.getD key = .string text) :
    j.mergePatch (ofFields [(key, .string text)]) = j := by
  cases h with
  | @object members ascending inside =>
    have hfind : Keyed.find? key members = some (.string text) := by
      change (Keyed.find? key members).getD .null = _ at hget
      cases hfind : Keyed.find? key members with
      | none =>
        rw [hfind] at hget
        cases hget
      | some value =>
        rw [hfind] at hget
        exact congrArg some hget
    exact congrArg Json.object (ascending.insertEntry_eq_self hfind)
  | null | bool | number | string | array => cases hget

end EtcdBackup.Json
