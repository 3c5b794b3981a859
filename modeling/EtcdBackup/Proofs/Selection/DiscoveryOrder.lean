import EtcdBackup.Proofs.Selection.Automatic

/-!
# The order of discovery

Discovery lists the tenant clusters as the API server does, in an order that may change from pass to
pass. It does not change which targets are worked on one after the other (`selection_of_perm`):
without names the targets come in the order of their names, and two lists of names in order that
have the same names are the same. Only what stands behind a name is settled by discovery, if it
found the name twice. Where all names are different, nothing is: there is at most one cluster to be
found for each name that is asked for.
-/

set_option autoImplicit false
set_option relaxedAutoImplicit false

namespace EtcdBackup.Selection

variable {management : Target} {tenants others : List Target}

/-- The tenant clusters have different names. -/
def HaveDistinctNames (tenants : List Target) : Prop := (tenants.map (·.name)).Nodup

theorem HaveDistinctNames.of_perm (h : HaveDistinctNames tenants) (order : tenants.Perm others) :
    HaveDistinctNames others :=
  (order.map _).nodup_iff.1 h

/-- The cluster found for a name is the one that has it. -/
theorem HaveDistinctNames.find?_eq_some_iff (h : HaveDistinctNames tenants) {name : String}
    {t : Target} : tenants.find? (·.name = name) = some t ↔ t ∈ tenants ∧ t.name = name := by
  refine ⟨fun found ↦ ⟨List.mem_of_find?_eq_some found, name_eq_of_find? found⟩, ?_⟩
  rintro ⟨ht, rfl⟩
  cases found : tenants.find? (·.name = t.name) with
  | none => exact absurd (decide_eq_true rfl) (List.find?_eq_none.1 found t ht)
  | some u =>
    have hu := List.mem_of_find?_eq_some found
    rw [List.inj_on_of_nodup_map h hu ht (name_eq_of_find? found)]

theorem find?_of_perm (order : tenants.Perm others) (distinct : HaveDistinctNames tenants)
    (name : String) : tenants.find? (·.name = name) = others.find? (·.name = name) := by
  refine Option.ext fun t ↦ ?_
  rw [distinct.find?_eq_some_iff, (distinct.of_perm order).find?_eq_some_iff, order.mem_iff]

/-- Names stand for the same targets. -/
theorem ofNames_of_perm (order : tenants.Perm others) (distinct : HaveDistinctNames tenants)
    (names : List String) (management : Target) :
    ofNames names management tenants = ofNames names management others := by
  have hadd : addName management tenants = addName management others := by
    funext s name
    unfold addName
    rw [find?_of_perm order distinct]
  rw [ofNames, ofNames, hadd]

section

variable (order : tenants.Perm others) (p : NamePatterns)
include order

theorem perm_admitted : (admitted p tenants).Perm (admitted p others) :=
  (List.mergeSort_perm _ _).trans ((order.filter _).trans (List.mergeSort_perm _ _).symm)

/-- The clusters that the patterns let through have the same names in the same order. -/
theorem map_name_admitted_of_perm :
    (admitted p tenants).map (·.name) = (admitted p others).map (·.name) := by
  have hsorted (ts : List Target) :
      ((admitted p ts).map (·.name)).Pairwise fun a b ↦ a ≤ b :=
    List.pairwise_map.2 (isInOrder_iff.1 (isInOrder_mergeSort _))
  exact ((perm_admitted order p).map _).eq_of_pairwise (fun _ _ _ _ ↦ le_antisymm)
    (hsorted tenants) (hsorted others)

/-- If the names are different, they are the same clusters. -/
theorem admitted_of_perm (distinct : HaveDistinctNames tenants) :
    admitted p tenants = admitted p others := by
  have hmem (ts : List Target) {t : Target} (ht : t ∈ admitted p ts) : t ∈ ts :=
    List.mem_of_mem_filter (List.mem_mergeSort.1 ht)
  refine (perm_admitted order p).eq_of_pairwise (fun t u ht hu htu hut ↦ ?_)
    (isInOrder_iff.1 (isInOrder_mergeSort _)) (isInOrder_iff.1 (isInOrder_mergeSort _))
  exact List.inj_on_of_nodup_map distinct (hmem tenants ht) (order.mem_iff.2 (hmem others hu))
    (le_antisymm htu hut)

end

/-- Without names the targets of a request have the same names in the same order, however the tenant
clusters are listed; and if these have different names, the selection is the same. -/
theorem selection_of_perm (order : tenants.Perm others) (spec : Spec) (management : Target)
    (skipManagement : Bool) :
    (spec.clusterNames = [] →
      (ofSpec spec management skipManagement tenants).map (fun s ↦ s.targets.map (·.name)) =
        (ofSpec spec management skipManagement others).map fun s ↦ s.targets.map (·.name)) ∧
    ((tenants.map (·.name)).Nodup →
      ofSpec spec management skipManagement tenants =
        ofSpec spec management skipManagement others) := by
  by_cases unnamed : spec.clusterNames = []
  · cases guests : spec.guestBackup with
    | false =>
      have needless : needsTenants spec = false := by
        rw [needsTenants, unnamed, guests]
        rfl
      rw [ofSpec_eq_of_not_needsTenants needless management skipManagement tenants others]
      exact ⟨fun _ ↦ rfl, fun _ ↦ rfl⟩
    | true =>
      cases compiled : compilePatterns spec with
      | error e =>
        have checked : checkPatterns spec = .error e := by
          rw [checkPatterns_of_guests unnamed guests, compiled]
          rfl
        rw [ofSpec_eq_error_iff.2 checked, ofSpec_eq_error_iff.2 checked]
        exact ⟨fun _ ↦ rfl, fun _ ↦ rfl⟩
      | ok p =>
        rw [ofSpec_of_guests unnamed guests compiled, ofSpec_of_guests unnamed guests compiled]
        refine ⟨fun _ ↦ ?_, fun distinct ↦ by rw [admitted_of_perm order p distinct]⟩
        simp only [Except.map, List.map_append, map_name_admitted_of_perm order p]
  · refine ⟨fun h ↦ (unnamed h).elim, fun distinct ↦ ?_⟩
    rw [ofSpec_of_names unnamed, ofSpec_of_names unnamed, ofNames_of_perm order distinct]

/-- Two clusters are worked on in the order of their names, also if they were discovered in the
other one. -/
theorem selection_of_perm_two :
    let a : Target := { name := "a" }
    let b : Target := { name := "b" }
    [b, a].Perm [a, b] ∧ ([b, a].map (·.name)).Nodup ∧
      ofSpec { guestBackup := true } (Target.management "" {}) true [b, a] =
        .ok { targets := [a, b] } := by
  intro a b
  have order : [b, a].Perm [a, b] := .swap a b []
  have distinct : ([b, a].map (·.name)).Nodup := by decide
  refine ⟨order, distinct, ?_⟩
  rw [(selection_of_perm order { guestBackup := true } (Target.management "" {}) true).2 distinct]
  have sorted : admitted ⟨none, none⟩ [a, b] = [a, b] :=
    List.mergeSort_of_pairwise (by decide)
  have compiled : compilePatterns { guestBackup := true } = .ok ⟨none, none⟩ := rfl
  rw [ofSpec_of_guests rfl rfl compiled, sorted]
  rfl

end EtcdBackup.Selection
