import EtcdBackup.Selection
import Mathlib.Data.List.Nodup

/-!
# What a selection comes to

A request whose patterns pass their check has a selection (`exists_ofSpec`), and one that needs no
tenant clusters has the same one whatever the tenant clusters are
(`ofSpec_eq_of_not_needsTenants`).

Names asked for are added one after the other, and `Adds` is what one of them comes to. So only
the management cluster and supported tenant clusters are targets (`mem_targets_of_ofSpec`), a name
without such a cluster is listed as unresolved (`exists_unresolved_of_ofSpec`), and no name is so
twice (`HasDistinctNames.of_ofSpec`).
-/

set_option autoImplicit false
set_option relaxedAutoImplicit false

namespace EtcdBackup.Selection

variable {spec : Spec} {management : Target} {skipManagement : Bool} {tenants : List Target}
  {s : Selection}

/-- The check of a request without names, for tenant clusters, is that its patterns are ones. -/
theorem checkPatterns_of_guests (unnamed : spec.clusterNames = [])
    (guests : spec.guestBackup = true) :
    checkPatterns spec = (compilePatterns spec).map fun _ ↦ () := by
  unfold checkPatterns usesPatterns
  rw [List.isEmpty_iff.2 unnamed, guests]
  rfl

/-- A selection fails exactly as the check of the patterns does. -/
theorem ofSpec_eq_error_iff {e : Error} :
    ofSpec spec management skipManagement tenants = .error e ↔ checkPatterns spec = .error e := by
  unfold ofSpec checkPatterns usesPatterns
  cases spec.clusterNames.isEmpty with
  | false => exact iff_of_false nofun nofun
  | true =>
    cases spec.guestBackup with
    | false => exact iff_of_false nofun nofun
    | true => cases compilePatterns spec <;> simp [bind, Except.bind, Except.map]

/-- A request whose patterns pass their check has a selection. -/
theorem exists_ofSpec (checked : checkPatterns spec = .ok ()) (management : Target)
    (skipManagement : Bool) (tenants : List Target) :
    ∃ selection, ofSpec spec management skipManagement tenants = .ok selection := by
  cases selected : ofSpec spec management skipManagement tenants with
  | error e =>
    rw [ofSpec_eq_error_iff, checked] at selected
    cases selected
  | ok selection => exact ⟨selection, rfl⟩

/-- A request that needs no tenant clusters does not depend on them. -/
theorem ofSpec_eq_of_not_needsTenants (h : needsTenants spec = false) (management : Target)
    (skipManagement : Bool) (tenants others : List Target) :
    ofSpec spec management skipManagement tenants =
      ofSpec spec management skipManagement others := by
  obtain ⟨named, guests⟩ := Bool.or_eq_false_iff.1 h
  rw [Bool.not_eq_false'] at named
  unfold ofSpec
  rw [if_pos named, if_pos named, guests]
  rfl

/-! ### One name after the other -/

/-- What adding a name to a selection comes to. -/
inductive Adds (management : Target) (tenants : List Target) (s : Selection) (name : String) :
    Selection → Prop
  /-- The name was added before. -/
  | again (known : s.mentions name = true) : Adds management tenants s name s
  | management (new : s.mentions name = false) (reserved : name = managementName) :
    Adds management tenants s name { s with targets := s.targets ++ [management] }
  | tenant (new : s.mentions name = false) (free : name ≠ managementName) {t : Target}
    (found : tenants.find? (·.name = name) = some t) (supported : t.supported = true) :
    Adds management tenants s name { s with targets := s.targets ++ [t] }
  | unsupported (new : s.mentions name = false) (free : name ≠ managementName) {t : Target}
    (found : tenants.find? (·.name = name) = some t) (tooOld : t.supported = false) :
    Adds management tenants s name
      { s with unresolved := s.unresolved ++ [⟨name, unsupportedReason⟩] }
  | notFound (new : s.mentions name = false) (free : name ≠ managementName)
    (missing : tenants.find? (·.name = name) = none) :
    Adds management tenants s name
      { s with unresolved := s.unresolved ++ [⟨name, notFoundReason⟩] }

theorem adds_addName (management : Target) (tenants : List Target) (s : Selection)
    (name : String) : Adds management tenants s name (s.addName management tenants name) := by
  unfold addName
  split
  case isTrue known => exact .again known
  case isFalse new =>
    rw [Bool.not_eq_true] at new
    split
    case isTrue reserved => exact .management new reserved
    case isFalse free =>
      split
      case h_1 t found =>
        split
        case isTrue supported => exact .tenant new free found supported
        case isFalse tooOld => exact .unsupported new free found (Bool.eq_false_iff.2 tooOld)
      case h_2 missing => exact .notFound new free missing

theorem mentions_iff {name : String} :
    s.mentions name = true ↔
      (∃ t ∈ s.targets, t.name = name) ∨ ∃ u ∈ s.unresolved, u.name = name := by
  simp [mentions]

theorem mentions_eq_false_iff {name : String} :
    s.mentions name = false ↔
      (∀ t ∈ s.targets, t.name ≠ name) ∧ ∀ u ∈ s.unresolved, u.name ≠ name := by
  simp [mentions]

theorem name_eq_of_find? {name : String} {t : Target}
    (found : tenants.find? (·.name = name) = some t) : t.name = name :=
  of_decide_eq_true (List.find?_some (p := fun t : Target ↦ decide (t.name = name)) found)

namespace Adds

variable {name : String} {s' : Selection}

/-- Nothing is taken back. -/
theorem mentions (h : Adds management tenants s name s') {other : String}
    (known : s.mentions other = true) : s'.mentions other = true := by
  rw [mentions_iff] at known ⊢
  cases h with
  | again => exact known
  | management | tenant =>
    exact known.imp_left fun ⟨t, ht, hname⟩ ↦ ⟨t, List.mem_append_left _ ht, hname⟩
  | unsupported | notFound =>
    exact known.imp_right fun ⟨u, hu, hname⟩ ↦ ⟨u, List.mem_append_left _ hu, hname⟩

/-- A name that is not the reserved one is mentioned once it was added. -/
theorem mentions_self (h : Adds management tenants s name s') (free : name ≠ managementName) :
    s'.mentions name = true := by
  cases h with
  | again known => exact known
  | management _ reserved => exact (free reserved).elim
  | @tenant _ _ t found _ =>
    exact mentions_iff.2 (.inl ⟨t, List.mem_append_right _ (.head _), name_eq_of_find? found⟩)
  | unsupported | notFound =>
    exact mentions_iff.2 (.inr ⟨_, List.mem_append_right _ (.head _), rfl⟩)

/-- A target that is new is the management cluster, for the reserved name, or a supported tenant
cluster of the name. -/
theorem mem_targets (h : Adds management tenants s name s') {t : Target} (ht : t ∈ s'.targets) :
    t ∈ s.targets ∨ (name = managementName ∧ t = management) ∨
      (name ≠ managementName ∧ tenants.find? (·.name = name) = some t ∧ t.supported = true) := by
  cases h with
  | again | unsupported | notFound => exact .inl ht
  | management _ reserved =>
    exact (List.mem_append.1 ht).imp_right fun ht ↦ .inl ⟨reserved, List.mem_singleton.1 ht⟩
  | tenant _ free found supported =>
    refine (List.mem_append.1 ht).imp_right fun ht ↦ .inr ?_
    rw [List.mem_singleton.1 ht]
    exact ⟨free, found, supported⟩

/-- A new name is not that of a target and unresolved at once. -/
theorem name_ne (h : Adds management tenants s name s')
    (reserved : management.name = managementName)
    (apart : ∀ t ∈ s.targets, ∀ u ∈ s.unresolved, t.name ≠ u.name) :
    ∀ t ∈ s'.targets, ∀ u ∈ s'.unresolved, t.name ≠ u.name := by
  intro t ht u hu
  have htarget {t' : Target} (new : s.mentions name = false) (hname : t'.name = name)
      (ht : t ∈ s.targets ++ [t']) (hu : u ∈ s.unresolved) : t.name ≠ u.name := by
    rcases List.mem_append.1 ht with ht | ht
    · exact apart t ht u hu
    · rw [List.mem_singleton.1 ht, hname]
      exact ((mentions_eq_false_iff.1 new).2 u hu).symm
  have hunresolved {reason : String} (new : s.mentions name = false) (ht : t ∈ s.targets)
      (hu : u ∈ s.unresolved ++ [⟨name, reason⟩]) : t.name ≠ u.name := by
    rcases List.mem_append.1 hu with hu | hu
    · exact apart t ht u hu
    · rw [List.mem_singleton.1 hu]
      exact (mentions_eq_false_iff.1 new).1 t ht
  cases h with
  | again => exact apart t ht u hu
  | management new hname => exact htarget new (reserved.trans hname.symm) ht hu
  | tenant new _ found => exact htarget new (name_eq_of_find? found) ht hu
  | unsupported new | notFound new => exact hunresolved new ht hu

end Adds

/-- What adding one name after the other keeps. The condition may speak of the names that were
added so far. -/
theorem ofNames_induction {P : List String → Selection → Prop} (start : P [] {})
    (step : ∀ added s name s', P added s → Adds management tenants s name s' →
      P (added ++ [name]) s') (names : List String) :
    P names (ofNames names management tenants) := by
  have general (added names : List String) (s : Selection) (h : P added s) :
      P (added ++ names) (names.foldl (addName management tenants) s) := by
    induction names generalizing added s with
    | nil => rwa [List.append_nil]
    | cons name names ih =>
      have hstep := ih _ _ (step _ _ _ _ h (adds_addName management tenants s name))
      rwa [List.append_assoc] at hstep
  exact general [] names {} start

/-- The targets of a list of names are the management cluster, if its reserved name is among them,
and supported tenant clusters of such names. -/
theorem mem_targets_ofNames {names : List String} {t : Target}
    (ht : t ∈ (ofNames names management tenants).targets) :
    (managementName ∈ names ∧ t = management) ∨
      ∃ name ∈ names, name ≠ managementName ∧ tenants.find? (·.name = name) = some t ∧
        t.supported = true := by
  refine ofNames_induction (P := fun names s ↦ t ∈ s.targets → (managementName ∈ names ∧
    t = management) ∨ ∃ name ∈ names, name ≠ managementName ∧
      tenants.find? (·.name = name) = some t ∧ t.supported = true)
    (fun h ↦ nomatch h) (fun added s name s' h adds ht ↦ ?_) names ht
  rcases adds.mem_targets ht with ht | ⟨rfl, rfl⟩ | hnew
  · exact (h ht).imp (fun ⟨hmem, heq⟩ ↦ ⟨List.mem_append_left _ hmem, heq⟩)
      fun ⟨other, hmem, hother⟩ ↦ ⟨other, List.mem_append_left _ hmem, hother⟩
  · exact .inl ⟨List.mem_append_right _ (.head _), rfl⟩
  · exact .inr ⟨name, List.mem_append_right _ (.head _), hnew⟩

/-- Every name asked for is mentioned in the selection; only the reserved one stands for a target
whose name may be another. -/
theorem mentions_ofNames {names : List String} {name : String} (hname : name ∈ names)
    (free : name ≠ managementName) : (ofNames names management tenants).mentions name = true := by
  refine ofNames_induction (P := fun names s ↦ name ∈ names → s.mentions name = true)
    (fun h ↦ nomatch h) (fun added s other s' h adds hmem ↦ ?_) names hname
  rcases List.mem_append.1 hmem with hmem | hmem
  · exact adds.mentions (h hmem)
  · rw [← List.mem_singleton.1 hmem] at adds
    exact adds.mentions_self free

/-! ### All targets of a request -/

/-- A selection is that of the names asked for or, without names, the management cluster unless it
is left out, with the tenant clusters that the patterns let through. -/
theorem cases_of_ofSpec (h : ofSpec spec management skipManagement tenants = .ok s) :
    s = ofNames spec.clusterNames management tenants ∨
      spec.clusterNames = [] ∧ ∃ guests, s.unresolved = [] ∧
        s.targets = (if skipManagement then [] else [management]) ++ guests ∧
          (guests = [] ∨ ∃ patterns, guests = admitted patterns tenants) := by
  unfold ofSpec at h
  split at h
  case isTrue unnamed =>
    refine .inr ⟨List.isEmpty_iff.1 unnamed, ?_⟩
    dsimp only at h
    split at h
    · cases compiled : compilePatterns spec with
      | error e =>
        rw [compiled] at h
        cases h
      | ok patterns =>
        rw [compiled] at h
        cases h
        exact ⟨_, rfl, rfl, .inr ⟨patterns, rfl⟩⟩
    · cases h
      exact ⟨[], rfl, (List.append_nil _).symm, .inl rfl⟩
  case isFalse named =>
    cases h
    exact .inl rfl

/-- The selection of a request for some names is that of the names. -/
theorem ofSpec_of_names (named : spec.clusterNames ≠ []) (management : Target)
    (skipManagement : Bool) (tenants : List Target) :
    ofSpec spec management skipManagement tenants =
      .ok (ofNames spec.clusterNames management tenants) :=
  if_neg (mt List.isEmpty_iff.1 named)

/-- Without names, a selection has the tenant clusters that the patterns let through. -/
theorem ofSpec_of_guests (unnamed : spec.clusterNames = []) (guests : spec.guestBackup = true)
    {patterns : NamePatterns} (compiled : compilePatterns spec = .ok patterns) :
    ofSpec spec management skipManagement tenants = .ok {
      targets := (if skipManagement then [] else [management]) ++ admitted patterns tenants } := by
  unfold ofSpec
  rw [if_pos (List.isEmpty_iff.2 unnamed), guests, compiled]
  rfl

/-- A target is the management cluster or a supported tenant cluster. -/
theorem mem_targets_of_ofSpec (h : ofSpec spec management skipManagement tenants = .ok s)
    {t : Target} (ht : t ∈ s.targets) : t = management ∨ t ∈ tenants ∧ t.supported = true := by
  rcases cases_of_ofSpec h with rfl | ⟨-, guests, -, htargets, hguests⟩
  · rcases mem_targets_ofNames ht with ⟨-, rfl⟩ | ⟨_, -, -, found, supported⟩
    · exact .inl rfl
    · exact .inr ⟨List.mem_of_find?_eq_some found, supported⟩
  · rw [htargets] at ht
    rcases List.mem_append.1 ht with ht | ht
    · split at ht
      · cases ht
      · exact .inl (List.mem_singleton.1 ht)
    · rcases hguests with rfl | ⟨patterns, rfl⟩
      · cases ht
      · have hmem := List.mem_filter.1 (List.mem_mergeSort.1 ht)
        exact .inr ⟨hmem.1, (Bool.and_eq_true_iff.1 hmem.2).1⟩

/-- A name asked for that is neither the reserved one nor that of a supported tenant cluster is
listed as unresolved; the name of the management cluster is one of its own only if the management
cluster was not asked for. -/
theorem exists_unresolved_of_ofSpec (h : ofSpec spec management skipManagement tenants = .ok s)
    {name : String} (hname : name ∈ spec.clusterNames) (free : name ≠ managementName)
    (own : name = management.name → managementName ∉ spec.clusterNames)
    (unsupported : ∀ t ∈ tenants, t.name = name → t.supported = false) :
    ∃ u ∈ s.unresolved, u.name = name := by
  rcases cases_of_ofSpec h with rfl | ⟨unnamed, -⟩
  · -- The name is mentioned, and a target of this name could only be the management cluster.
    refine (mentions_iff.1 (mentions_ofNames hname free)).resolve_left ?_
    rintro ⟨t, ht, rfl⟩
    rcases mem_targets_ofNames ht with ⟨asked, rfl⟩ | ⟨_, -, -, found, supported⟩
    · exact own rfl asked
    · rw [unsupported t (List.mem_of_find?_eq_some found) rfl] at supported
      cases supported
  · rw [unnamed] at hname
    cases hname

/-- While the management cluster has its reserved name, no name is both that of a target and an
unresolved one. -/
theorem name_ne_of_ofSpec (h : ofSpec spec management skipManagement tenants = .ok s)
    (reserved : management.name = managementName) {t : Target} (ht : t ∈ s.targets)
    {u : Unresolved} (hu : u ∈ s.unresolved) : t.name ≠ u.name := by
  rcases cases_of_ofSpec h with rfl | ⟨-, _, hnone, -⟩
  · exact ofNames_induction
      (P := fun _ s ↦ ∀ t ∈ s.targets, ∀ u ∈ s.unresolved, t.name ≠ u.name) (fun _ h ↦ nomatch h)
      (fun _ _ _ _ h adds ↦ adds.name_ne reserved h) spec.clusterNames t ht u hu
  · rw [hnone] at hu
    cases hu

/-! ### Unresolved names -/

/-- The names that are listed as unresolved are different. -/
def HasDistinctNames (s : Selection) : Prop := (s.unresolved.map Unresolved.name).Nodup

namespace HasDistinctNames

/-- A name that was not added before is a new one. -/
theorem append (h : s.HasDistinctNames) {name : String} (new : s.mentions name = false)
    (reason : String) :
    HasDistinctNames { s with unresolved := s.unresolved ++ [⟨name, reason⟩] } := by
  have hnew : name ∉ s.unresolved.map Unresolved.name := by
    intro hmem
    obtain ⟨u, hu, hname⟩ := List.mem_map.1 hmem
    exact (mentions_eq_false_iff.1 new).2 u hu hname
  unfold HasDistinctNames
  rw [List.map_append, List.map_singleton, ← List.concat_eq_append]
  exact List.Nodup.concat hnew h

theorem ofNames (names : List String) (management : Target) (tenants : List Target) :
    (Selection.ofNames names management tenants).HasDistinctNames := by
  refine ofNames_induction (P := fun _ s ↦ s.HasDistinctNames) List.nodup_nil
    (fun _ s name s' h adds ↦ ?_) names
  cases adds with
  | again | management | tenant => exact h
  | unsupported new | notFound new => exact h.append new _

/-- A selection lists no unresolved name twice. -/
theorem of_ofSpec (h : ofSpec spec management skipManagement tenants = .ok s) :
    s.HasDistinctNames := by
  rcases cases_of_ofSpec h with rfl | ⟨-, _, hnone, -⟩
  · exact ofNames _ _ _
  · rw [HasDistinctNames, hnone]
    exact List.nodup_nil

end HasDistinctNames

end EtcdBackup.Selection
