import EtcdBackup.Proofs.Selection
import Mathlib.Data.List.Basic
import Mathlib.Data.List.Induction
import Mathlib.Data.List.Perm.Basic

/-!
# Names asked for are split

The selection of a list of names is a split of its different names, each at its first occurrence,
into those that stand for a target and those with a reason why they do not (`ofNames_eq`). What
this comes to, name by name and in terms of the tenant clusters, is `Splits`; it needs the
management cluster to have its reserved name.
-/

set_option autoImplicit false
set_option relaxedAutoImplicit false

namespace EtcdBackup.Selection

variable {names : List String} {name : String} {management : Target} {tenants : List Target}
  {s : Selection}

/-- The names asked for are split between the targets and the unresolved names. -/
structure Splits (names : List String) (management : Target) (tenants : List Target)
    (s : Selection) : Prop where
  /-- Each name asked for occurs once in the two together, and no other name does. -/
  occurs : ∀ name, ((s.targets.map (·.name)) ++ s.unresolved.map (·.name)).count name =
    if name ∈ names then 1 else 0
  /-- Both keep the order in which the names first occur. -/
  targets_order : (s.targets.map (·.name)).Pairwise fun a b ↦ names.idxOf a < names.idxOf b
  unresolved_order : (s.unresolved.map (·.name)).Pairwise fun a b ↦ names.idxOf a < names.idxOf b
  /-- The reserved name stands for the management cluster, any other one for the first tenant
  cluster of that name, if this is supported. -/
  mem_targets_iff : ∀ t, t ∈ s.targets ↔ t.name ∈ names ∧
    if t.name = managementName then t = management
    else tenants.find? (·.name = t.name) = some t ∧ t.supported = true
  /-- The first tenant cluster of an unresolved name is not supported, or there is none; the
  reserved name is never unresolved. -/
  mem_unresolved_iff : ∀ u, u ∈ s.unresolved ↔ u.name ∈ names ∧ u.name ≠ managementName ∧
    ((∃ t, tenants.find? (·.name = u.name) = some t ∧ t.supported = false ∧
        u.reason = unsupportedReason) ∨
      (∀ t ∈ tenants, t.name ≠ u.name) ∧ u.reason = notFoundReason)

/-! ### First occurrences -/

/-- A name that is asked for again does not occur again. -/
theorem eraseDups_append_singleton (names : List String) (name : String) :
    (names ++ [name]).eraseDups =
      if name ∈ names then names.eraseDups else names.eraseDups ++ [name] := by
  rw [List.eraseDups_append]
  split
  case isTrue h => simp [List.removeAll, h]
  case isFalse h => simp [List.removeAll, h, List.eraseDups_cons]

theorem pairwise_idxOf_eraseDups (names : List String) :
    names.eraseDups.Pairwise fun a b ↦ names.idxOf a < names.idxOf b := by
  induction names using List.reverseRecOn with
  | nil => exact .nil
  | append_singleton names name ih =>
    -- The names that were there keep their places, and a new one comes behind them.
    have before : names.eraseDups.Pairwise fun a b ↦
        (names ++ [name]).idxOf a < (names ++ [name]).idxOf b := by
      refine ih.imp_of_mem fun ha hb hlt ↦ ?_
      rwa [List.idxOf_append_of_mem (List.mem_eraseDups.1 ha),
        List.idxOf_append_of_mem (List.mem_eraseDups.1 hb)]
    rw [eraseDups_append_singleton]
    split
    case isTrue => exact before
    case isFalse new =>
      refine List.pairwise_append.2 ⟨before, List.pairwise_singleton _ _, fun a ha b hb ↦ ?_⟩
      obtain rfl := List.mem_singleton.1 hb
      rw [List.idxOf_append_of_mem (List.mem_eraseDups.1 ha), List.idxOf_append_of_notMem new]
      exact Nat.lt_add_right _ (List.idxOf_lt_length_iff.2 (List.mem_eraseDups.1 ha))

theorem nodup_eraseDups (names : List String) : names.eraseDups.Nodup :=
  (pairwise_idxOf_eraseDups names).imp fun hlt ↦ ne_of_apply_ne names.idxOf (Nat.ne_of_lt hlt)

/-! ### What a name stands for -/

/-- The target that a name stands for. -/
def target? (management : Target) (tenants : List Target) (name : String) : Option Target :=
  if name = managementName then some management
  else (tenants.find? (·.name = name)).filter (·.supported)

/-- The name with the reason why it stands for no target. -/
def unresolved? (tenants : List Target) (name : String) : Option Unresolved :=
  if name = managementName then none
  else
    match tenants.find? (·.name = name) with
    | some t => if t.supported then none else some ⟨name, unsupportedReason⟩
    | none => some ⟨name, notFoundReason⟩

theorem target?_eq_some_iff {t : Target} : target? management tenants name = some t ↔
    if name = managementName then t = management
    else tenants.find? (·.name = name) = some t ∧ t.supported = true := by
  unfold target?
  split
  · exact Option.some_inj.trans eq_comm
  · exact Option.filter_eq_some_iff

theorem unresolved?_eq_some_iff {u : Unresolved} : unresolved? tenants name = some u ↔
    u.name = name ∧ name ≠ managementName ∧
    ((∃ t, tenants.find? (·.name = name) = some t ∧ t.supported = false ∧
        u.reason = unsupportedReason) ∨
      (∀ t ∈ tenants, t.name ≠ name) ∧ u.reason = notFoundReason) := by
  have hlisted (reason : String) : some (⟨name, reason⟩ : Unresolved) = some u ↔
      u.name = name ∧ u.reason = reason := by
    obtain ⟨n, r⟩ := u
    simp [eq_comm]
  have hmissing : (∀ t ∈ tenants, t.name ≠ name) ↔ tenants.find? (·.name = name) = none := by
    simp
  rw [hmissing]
  unfold unresolved?
  split
  case isTrue reserved => simp [reserved]
  case isFalse free =>
    cases tenants.find? (·.name = name) with
    | none => simp [hlisted, free]
    | some t => cases supported : t.supported <;> simp [hlisted, free, supported]

/-- A name stands for a target, or there is a reason why it does not. -/
theorem isSome_unresolved? (management : Target) (tenants : List Target) (name : String) :
    (unresolved? tenants name).isSome = !(target? management tenants name).isSome := by
  unfold unresolved? target?
  split
  · rfl
  · cases tenants.find? (·.name = name) with
    | none => rfl
    | some t => cases supported : t.supported <;> simp [supported]

theorem name_of_target? (reserved : management.name = managementName) {t : Target}
    (h : target? management tenants name = some t) : t.name = name := by
  rw [target?_eq_some_iff] at h
  split at h
  case isTrue hname => rw [h, reserved, hname]
  case isFalse => exact name_eq_of_find? h.1

theorem name_of_unresolved? {u : Unresolved} (h : unresolved? tenants name = some u) :
    u.name = name :=
  (unresolved?_eq_some_iff.1 h).1

/-! ### The selection of a list of names -/

/-- The split of the different names, each at its first occurrence. -/
def split (names : List String) (management : Target) (tenants : List Target) : Selection where
  targets := names.eraseDups.filterMap (target? management tenants)
  unresolved := names.eraseDups.filterMap (unresolved? tenants)

/-- If what is found for a name has this name, then the names of all that is found are those for
which something is found. -/
theorem map_filterMap_eq_filter {α : Type} {f : String → Option α} {nameOf : α → String}
    (named : ∀ name a, f name = some a → nameOf a = name) (names : List String) :
    (names.filterMap f).map nameOf = names.filter fun name ↦ (f name).isSome := by
  rw [List.map_filterMap, ← List.filterMap_eq_filter]
  refine List.filterMap_congr fun name _ ↦ ?_
  cases h : f name with
  | none => simp [Option.guard, h]
  | some a => simp [Option.guard, h, named name a h]

theorem map_name_targets_split (reserved : management.name = managementName)
    (names : List String) (tenants : List Target) :
    (split names management tenants).targets.map (·.name) =
      names.eraseDups.filter fun name ↦ (target? management tenants name).isSome :=
  map_filterMap_eq_filter (fun _ _ ↦ name_of_target? reserved) _

theorem map_name_unresolved_split (management : Target) (names : List String)
    (tenants : List Target) :
    (split names management tenants).unresolved.map (·.name) =
      names.eraseDups.filter fun name ↦ !(target? management tenants name).isSome := by
  simp only [← isSome_unresolved?]
  exact map_filterMap_eq_filter (fun _ _ ↦ name_of_unresolved?) _

theorem perm_names_split (reserved : management.name = managementName) (names : List String)
    (tenants : List Target) :
    ((split names management tenants).targets.map (·.name) ++
      (split names management tenants).unresolved.map (·.name)).Perm names.eraseDups := by
  rw [map_name_targets_split reserved, map_name_unresolved_split]
  exact List.filter_append_perm _ _

theorem mentions_split_iff (reserved : management.name = managementName) :
    (split names management tenants).mentions name = true ↔ name ∈ names := by
  have hmem := (perm_names_split reserved names tenants).mem_iff (a := name)
  rw [List.mem_append, List.mem_map, List.mem_map, List.mem_eraseDups] at hmem
  rw [← hmem]
  exact mentions_iff

/-- Adding a name splits one more name. -/
theorem addName_split (reserved : management.name = managementName) (names : List String)
    (tenants : List Target) (name : String) :
    (split names management tenants).addName management tenants name =
      split (names ++ [name]) management tenants := by
  unfold addName
  by_cases known : name ∈ names
  · rw [if_pos ((mentions_split_iff reserved).2 known)]
    simp only [split, eraseDups_append_singleton, if_pos known]
  · rw [if_neg (mt (mentions_split_iff reserved).1 known)]
    simp only [split, eraseDups_append_singleton, if_neg known, List.filterMap_append,
      List.filterMap_cons, List.filterMap_nil, target?, unresolved?]
    by_cases hname : name = managementName
    · simp [hname]
    · cases tenants.find? (·.name = name) with
      | none => simp [hname]
      | some t => cases supported : t.supported <;> simp [hname, supported, Option.filter]

/-- The selection of a list of names is their split. -/
theorem ofNames_eq (reserved : management.name = managementName) (names : List String)
    (tenants : List Target) : ofNames names management tenants = split names management tenants := by
  induction names using List.reverseRecOn with
  | nil => rfl
  | append_singleton names name ih =>
    rw [← addName_split reserved, ← ih]
    exact List.foldl_append

theorem splits_split (reserved : management.name = managementName) (names : List String)
    (tenants : List Target) :
    Splits names management tenants (split names management tenants) where
  occurs name := by
    rw [(perm_names_split reserved names tenants).count_eq, (nodup_eraseDups names).count]
    simp only [List.mem_eraseDups]
  targets_order := by
    rw [map_name_targets_split reserved]
    exact (pairwise_idxOf_eraseDups names).filter _
  unresolved_order := by
    rw [map_name_unresolved_split management]
    exact (pairwise_idxOf_eraseDups names).filter _
  mem_targets_iff t := by
    rw [← target?_eq_some_iff]
    refine List.mem_filterMap.trans ⟨?_, fun ⟨hmem, h⟩ ↦ ⟨_, List.mem_eraseDups.2 hmem, h⟩⟩
    rintro ⟨name, hmem, h⟩
    obtain rfl := name_of_target? reserved h
    exact ⟨List.mem_eraseDups.1 hmem, h⟩
  mem_unresolved_iff u := by
    refine List.mem_filterMap.trans ⟨?_, fun ⟨hmem, h⟩ ↦
      ⟨_, List.mem_eraseDups.2 hmem, unresolved?_eq_some_iff.2 ⟨rfl, h⟩⟩⟩
    rintro ⟨name, hmem, h⟩
    obtain ⟨rfl, h⟩ := unresolved?_eq_some_iff.1 h
    exact ⟨List.mem_eraseDups.1 hmem, h⟩

/-- The split of the names asked for is the selection of every request for them, whatever else the
request says and whether the management cluster is left out otherwise. -/
theorem ofSpec_eq_split {spec : Spec} (named : spec.clusterNames ≠ [])
    (reserved : management.name = managementName) (skipManagement : Bool)
    (tenants : List Target) : ofSpec spec management skipManagement tenants =
      .ok (split spec.clusterNames management tenants) := by
  rw [ofSpec_of_names named, ofNames_eq reserved]

end EtcdBackup.Selection
