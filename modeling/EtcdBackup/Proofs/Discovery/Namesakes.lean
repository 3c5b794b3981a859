import EtcdBackup.Proofs.Controller.Plan
import EtcdBackup.Proofs.Discovery.Eligible

/-!
# Clusters of one name

A status has one entry for each name, so the targets of a request are kept apart only if their
names are different (`HasOwnEntries`). Names that are asked for are added one after the other and
never twice. Without names the tenant clusters are taken as discovery has them, and it has each
cluster under the name of its object, of whatever namespace or provider that is. So targets share
an entry exactly if two tenant clusters that the patterns let through have one name, or one of them
has the name of a management cluster that is covered too (`hasOwnEntries_iff`).

Of targets that share an entry only the first is ever backed up (`Runner.Visits.find?_of_opened`):
once its sub-status is done, so is that of the others.
-/

set_option autoImplicit false
set_option relaxedAutoImplicit false

namespace EtcdBackup

open Dialogue

/-! ### Selections -/

namespace Selection

variable {spec : Spec} {management : Target} {skipManagement : Bool} {tenants : List Target}
  {s : Selection} {patterns : NamePatterns}

/-- The names of the targets are different. -/
def HasOwnEntries (s : Selection) : Prop := (s.targets.map Target.name).Nodup

namespace HasOwnEntries

/-- A target whose name was not added before gets an entry of its own. -/
theorem append (h : s.HasOwnEntries) {t : Target} (new : s.mentions t.name = false) :
    HasOwnEntries { s with targets := s.targets ++ [t] } := by
  have hnew : t.name ∉ s.targets.map Target.name := by
    intro hmem
    obtain ⟨other, hother, hname⟩ := List.mem_map.1 hmem
    exact (mentions_eq_false_iff.1 new).1 other hother hname
  unfold HasOwnEntries
  rw [List.map_append, List.map_singleton, ← List.concat_eq_append]
  exact List.Nodup.concat hnew h

theorem ofNames (reserved : management.name = managementName) (names : List String)
    (tenants : List Target) : (Selection.ofNames names management tenants).HasOwnEntries := by
  refine ofNames_induction (P := fun _ s ↦ s.HasOwnEntries) List.nodup_nil
    (fun _ s name s' h adds ↦ ?_) names
  cases adds with
  | again | unsupported | notFound => exact h
  | management new hname => exact h.append (by rwa [reserved, ← hname])
  | tenant new _ found => exact h.append (by rwa [name_eq_of_find? found])

end HasOwnEntries

/-- Targets share an entry only in a selection by patterns: if the patterns let two tenant clusters
of one name through, or one that has the name of the management cluster. -/
theorem hasOwnEntries_iff (reserved : management.name = managementName)
    (selected : ofSpec spec management skipManagement tenants = .ok s) :
    s.HasOwnEntries ↔ (spec.clusterNames = [] → spec.guestBackup = true →
      ∀ patterns, compilePatterns spec = .ok patterns →
        ((admitted patterns tenants).map Target.name).Nodup ∧
          (skipManagement = false → ∀ t ∈ admitted patterns tenants, t.name ≠ managementName)) := by
  constructor
  · intro own unnamed guests patterns compiled
    rw [ofSpec_of_guests unnamed guests compiled] at selected
    cases selected
    rw [HasOwnEntries, List.map_append, List.nodup_append] at own
    refine ⟨own.2.1, fun covered t ht hname ↦ ?_⟩
    rw [covered] at own
    exact own.2.2 _ (List.mem_singleton.2 reserved.symm) _ (List.mem_map_of_mem ht) hname.symm
  · intro apart
    rcases cases_of_ofSpec selected with rfl | ⟨unnamed, -⟩
    · exact .ofNames reserved _ _
    · cases guests : spec.guestBackup with
      | false =>
        unfold ofSpec at selected
        rw [if_pos (List.isEmpty_iff.2 unnamed), guests] at selected
        cases selected
        cases skipManagement with
        | true => exact List.nodup_nil
        | false => exact List.nodup_singleton _
      | true =>
        cases compiled : compilePatterns spec with
        | error e =>
          unfold ofSpec at selected
          rw [if_pos (List.isEmpty_iff.2 unnamed), guests, compiled] at selected
          cases selected
        | ok patterns =>
          obtain ⟨distinct, free⟩ := apart unnamed guests patterns compiled
          rw [ofSpec_of_guests unnamed guests compiled] at selected
          cases selected
          cases skipManagement with
          | true => exact distinct
          | false =>
            refine List.nodup_cons.2 ⟨fun hmem ↦ ?_, distinct⟩
            obtain ⟨t, ht, hname⟩ := List.mem_map.1 hmem
            exact free rfl t ht (hname.trans reserved)

end Selection

/-! ### Backups -/

/-- Makers of backups are only opened for a target that is the first one of its name. -/
theorem Runner.Visits.find?_of_opened {ctx : Context} {version : Datastore} {status : Status}
    {targets : List Target} {es : List (Exchange Calls)} {next : Option Status}
    (h : Visits ctx version status targets es next) {e : Exchange Calls} (he : e ∈ es) {t : Target}
    {v : Datastore} (opened : e.request = .openBackupper t v) :
    targets.find? (·.name = t.name) = some t ∧
      (status.sub t.name version).state.isTerminal = false := by
  induction h with
  | nil => cases he
  | @done target rest es next now terminal others ih =>
    rcases List.mem_cons.1 he with rfl | he
    · cases opened
    · obtain ⟨found, unfinished⟩ := ih he
      -- A target of the same name that comes before would be done, and this one with it.
      have hname : target.name ≠ t.name := by
        intro hname
        rw [hname, unfinished] at terminal
        cases terminal
      rw [List.find?_cons_of_neg (by simpa using hname)]
      exact ⟨found, unfinished⟩
  | @work target rest now es sub unfinished moves =>
    rcases List.mem_cons.1 he with rfl | he
    · cases opened
    · obtain ⟨rfl, -, -⟩ := moves.opened he opened
      exact ⟨List.find?_cons_of_pos (by simp), unfinished⟩

namespace Discovery

variable {azureMinimum : Version}

/-- Discovery has each cluster under the name of its object. -/
theorem sublist_names_of_leads {es : List (Exchange Effects)} {tenants : List Target}
    (course : (tenantClusters azureMinimum).Leads es (.done (.ok tenants))) :
    ∃ s : Survey azureMinimum, es = s.exchanges ∧ (tenants.map Target.name).Sublist
      ((s.listings.flatMap Listing.candidates).map (·.object.name)) := by
  obtain ⟨s, rfl, hresult⟩ := leads_tenantClusters_iff.1 course
  refine ⟨s, rfl, ?_⟩
  rw [Survey.result] at hresult
  split at hresult
  case isTrue => cases hresult
  case isFalse =>
    cases hresult
    rw [← s.order]
    induction s.resolutions with
    | nil => exact .slnil
    | cons r rest ih =>
      cases htarget : r.target? with
      | none =>
        rw [List.filterMap_cons_none htarget]
        exact ih.cons _
      | some t =>
        rw [List.filterMap_cons_some htarget]
        rw [List.map_cons, List.map_cons, List.map_cons,
          (r.target?_eq_some_iff.1 htarget).represents.name]
        exact ih.cons_cons _

/-- No target has the name of an unresolved one. Targets share an entry only if the patterns let
two tenant clusters of one name through, or one that has the name of the management cluster; and
then two objects of this name were listed, or one of the reserved name. Of targets that share an
entry only the first is backed up. -/
theorem entries_of_ofSpec {spec : Spec} {management : Target} {skipManagement : Bool}
    {tenants : List Target} {s : Selection} (reserved : management.name = managementName)
    (selected : Selection.ofSpec spec management skipManagement tenants = .ok s) :
    (∀ t ∈ s.targets, ∀ u ∈ s.unresolved, t.name ≠ u.name) ∧
    (s.HasOwnEntries ↔ (spec.clusterNames = [] → spec.guestBackup = true →
      ∀ patterns, Selection.compilePatterns spec = .ok patterns →
        ((Selection.admitted patterns tenants).map Target.name).Nodup ∧
          (skipManagement = false →
            ∀ t ∈ Selection.admitted patterns tenants, t.name ≠ managementName))) ∧
    (∀ azureMinimum es, (tenantClusters azureMinimum).Leads es (.done (.ok tenants)) →
      ∃ survey : Survey azureMinimum, es = survey.exchanges ∧ (tenants.map Target.name).Sublist
        ((survey.listings.flatMap Listing.candidates).map (·.object.name))) ∧
    ∀ ctx version status es rest,
      (Runner.advanceFirst ctx version status s.targets).Leads es rest →
      ∀ t v answer, ⟨.openBackupper t v, answer⟩ ∈ es →
        s.targets.find? (·.name = t.name) = some t := by
  refine ⟨fun t ht u hu ↦ Selection.name_ne_of_ofSpec selected reserved ht hu,
    Selection.hasOwnEntries_iff reserved selected, fun _ _ ↦ sublist_names_of_leads, ?_⟩
  intro ctx version status es rest course t v answer hmem
  obtain ⟨behind, next, hrest⟩ := Leads.exists_done rest
  exact ((Runner.visits_of_leads (course.trans hrest)).find?_of_opened
    (List.mem_append_left _ hmem) rfl).1

/-- Of two clusters of one name that is asked for twice, the first is the only target. -/
theorem entries_of_ofSpec_named :
    let tenants : List Target :=
      [kvmTarget, { kvmTarget with v3 := { endpoints := "https://etcd.b:443", tls := some {} } }]
    ∃ s, Selection.ofSpec { clusterNames := ["a", "a"] } (Target.management "" {}) false tenants =
      .ok s ∧ s.targets = [kvmTarget] ∧ s.HasOwnEntries := by
  intro tenants
  have selected : Selection.ofSpec { clusterNames := ["a", "a"] } (Target.management "" {}) false
      tenants = .ok { targets := [kvmTarget] } := rfl
  exact ⟨_, selected, rfl, (entries_of_ofSpec rfl selected).2.1.2 nofun⟩

/-! ### Two clusters of one name -/

/-- Two clusters on KVM in different namespaces. -/
def twoNamespaces : Json :=
  let cluster (namespaceName domain : String) : Json :=
    .object [("metadata", .object [("name", .string "a"), ("namespace", .string namespaceName)]),
      ("spec", .object [("cluster", .object [("etcd", .object [("domain", .string domain)])])])]
  .object [("items", .array [cluster "x" "etcd.x", cluster "y" "etcd.y"])]

/-- Both become targets of the same name, and share an entry. -/
theorem not_hasOwnEntries :
    ¬∀ (azureMinimum : Version) (es : List (Exchange Effects)) (tenants : List Target)
      (spec : Spec) (management : Target) (skipManagement : Bool) (s : Selection),
      (tenantClusters azureMinimum).Leads es (.done (.ok tenants)) →
      management.name = managementName →
      Selection.ofSpec spec management skipManagement tenants = .ok s → s.HasOwnEntries := by
  let tenants : List Target :=
    [{ name := "a", v3 := { endpoints := "https://etcd.x:443", tls := some {} } },
      { name := "a", v3 := { endpoints := "https://etcd.y:443", tls := some {} } }]
  have replayed : Work.replay (tenantClusters ⟨0, 2, 0, [], []⟩)
      [.api (.error ""), .api (.error ""), replied twoNamespaces, .api (.error ""),
        replied oneSecret, replied oneSecret] = some (.ok tenants) := by
    decide +kernel
  intro h
  obtain ⟨es, -, course⟩ := Work.exists_leads_of_replay replayed
  have selected : Selection.ofSpec { guestBackup := true } (Target.management "" {}) false tenants =
      .ok { targets := [Target.management "" {}] ++ Selection.admitted ⟨none, none⟩ tenants } :=
    Selection.ofSpec_of_guests rfl rfl rfl
  have own := h _ es _ _ _ _ _ course rfl selected
  obtain ⟨distinct, -⟩ := (Selection.hasOwnEntries_iff rfl selected).1 own rfl rfl _ rfl
  have hnames := ((List.mergeSort_perm _ _).map Target.name).nodup_iff.1 distinct
  revert hnames
  decide

end Discovery

end EtcdBackup
