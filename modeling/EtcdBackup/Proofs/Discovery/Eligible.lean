import EtcdBackup.Proofs.Discovery.Containment
import EtcdBackup.Proofs.Selection

/-!
# Only eligible clusters are targets

Whether a cluster may be backed up is decided in three places: clusters that are being deleted or
not set up are not looked into, those that opted out become no target, and those of an old release
are left out when the targets of a request are selected. `IsEligible` says what all of it comes to,
of the object of the cluster as it was listed.

Every target of a request other than the management cluster was built from an eligible object, and
a name asked for whose objects are all ineligible is listed as unresolved (`targets_eligible`). The
one exception is the name of the management cluster itself: the reserved name stands for it
whatever it is called, and no name is added twice (`not_unresolved_of_ineligible`).
-/

set_option autoImplicit false
set_option relaxedAutoImplicit false

namespace EtcdBackup.Discovery

open Dialogue

/-! ### Eligible clusters -/

/-- The text of the release of an Azure cluster: that of its bundle if there is one that is not
empty, or else that of its label. -/
def IsRelease (o : ProviderObject) (release : String) : Prop :=
  let bundle := o.data.path ["spec", "versionBundle", "version"]
  (bundle = .string release ∧ release ≠ "") ∨
    (∀ text, bundle = .string text → text = "") ∧
      ∃ labels, o.metadata.labels = some labels ∧ labels.get? releaseLabel = some release

/-- A cluster that may be backed up. -/
structure IsEligible (azureMinimum : Version) (c : Candidate) : Prop where
  kept : c.object.metadata.deletionTimestamp = none
  takesPart : ∀ annotations, c.object.metadata.annotations = some annotations →
    annotations.get? skipAnnotation ≠ some "true"
  /-- A cluster of the Cluster API is set up. -/
  ready : c.provider = .capi →
    ∀ condition ∈ ["controlPlaneInitialized", "infrastructureProvisioned"],
      c.object.data.path ["status", "initialization", condition] = .bool true
  /-- A cluster on Azure has a release that is recent enough. -/
  recent : c.provider = .azure → ∃ release version, IsRelease c.object release ∧
    Version.parse (Version.withoutMark release) = .ok version ∧
      version.atLeast azureMinimum = true

section

variable {azureMinimum : Version} {o : ProviderObject}

theorem path_eq_of_holdsAt {keys : List String} (h : o.holdsAt keys = true) :
    o.data.path keys = .bool true := by
  have hvalue : (o.data.path keys).asBool? = some true := of_decide_eq_true h
  revert hvalue
  cases o.data.path keys with
  | bool value =>
    intro hvalue
    rw [Option.some.inj hvalue]
  | _ =>
    intro hvalue
    cases hvalue

/-- The text at a path is that of a string there, or empty. -/
theorem path_eq_or_textAt_eq (o : ProviderObject) (keys : List String) :
    o.data.path keys = .string (o.textAt keys) ∨
      o.textAt keys = "" ∧ ∀ text, o.data.path keys ≠ .string text := by
  unfold ProviderObject.textAt
  cases o.data.path keys with
  | string text => exact .inl rfl
  | _ => exact .inr ⟨rfl, fun _ ↦ nofun⟩

theorem isRelease_azureRelease (h : Provider.azureRelease o ≠ "") :
    IsRelease o (Provider.azureRelease o) := by
  have hpath := path_eq_or_textAt_eq o ["spec", "versionBundle", "version"]
  unfold Provider.azureRelease at h ⊢
  dsimp only at h ⊢
  split at h
  case isTrue absent =>
    rw [if_pos absent]
    rw [String.isEmpty_iff] at absent
    refine .inr ⟨fun text htext ↦ ?_, ?_⟩
    · rcases hpath with hpath | ⟨-, hnone⟩
      · rw [← absent]
        exact Json.string.inj (htext.symm.trans hpath)
      · exact (hnone text htext).elim
    · cases hlabel : o.metadata.labels.bind (·.get? releaseLabel) with
      | none =>
        rw [hlabel] at h
        exact (h rfl).elim
      | some release => exact Option.bind_eq_some_iff.1 hlabel
  case isFalse present =>
    rw [if_neg present]
    exact .inl ⟨hpath.resolve_right fun hnone ↦ h hnone.1, h⟩

theorem exists_version_of_supportsBackup
    (h : Provider.azure.supportsBackup o azureMinimum = .ok true) :
    ∃ release version, IsRelease o release ∧
      Version.parse (Version.withoutMark release) = .ok version ∧
        version.atLeast azureMinimum = true := by
  unfold Provider.supportsBackup at h
  dsimp only at h
  split at h
  case isTrue missing => cases h
  case isFalse present =>
    have hrelease : Provider.azureRelease o ≠ "" := fun hnone ↦
      present (String.isEmpty_iff.2 hnone)
    rw [Version.isSupported, if_neg present] at h
    split at h
    case h_1 version parsed =>
      exact ⟨_, version, isRelease_azureRelease hrelease, parsed, Except.ok.inj h⟩
    case h_2 => cases h

/-- The checks that are made on the way to a target make its cluster an eligible one. -/
theorem isEligible_of_represents {c : Candidate} {t : Target}
    (candidate : c.provider.isCandidate c.object = true) (represents : Represents azureMinimum c t)
    (supported : t.supported = true) : IsEligible azureMinimum c := by
  obtain ⟨kept, ready⟩ := Bool.and_eq_true_iff.1 candidate
  refine ⟨Option.isNone_iff_eq_none.1 kept, fun annotations hannotations hskip ↦ ?_,
    fun hcapi condition hcondition ↦ ?_, fun hazure ↦ ?_⟩
  · have takesPart := of_decide_eq_false represents.takesPart
    rw [hannotations] at takesPart
    exact takesPart hskip
  · rw [hcapi] at ready
    obtain ⟨controlPlane, infrastructure⟩ := Bool.and_eq_true_iff.1 ready
    rcases List.mem_pair.1 hcondition with rfl | rfl
    · exact path_eq_of_holdsAt controlPlane
    · exact path_eq_of_holdsAt infrastructure
  · have release := represents.release
    rw [hazure, supported] at release
    exact exists_version_of_supportsBackup release

/-- An eligible cluster did not opt out. -/
theorem IsEligible.isSkipped_eq_false {c : Candidate} (h : IsEligible azureMinimum c) :
    Provider.isSkipped c.object = false := by
  refine decide_eq_false fun hskip ↦ ?_
  obtain ⟨annotations, hannotations, hskip⟩ := Option.bind_eq_some_iff.1 hskip
  exact h.takesPart annotations hannotations hskip

end

/-! ### Where the tenant clusters come from -/

section

variable {azureMinimum : Version} {es : List (Exchange Effects)}

/-- In the exchanges, the object is one of those that the management cluster's API server listed
for its provider. -/
def IsListed (es : List (Exchange Effects)) (c : Candidate) : Prop :=
  ∃ request response objects, ApiRequest.list ⟨c.provider.resource, none⟩ [] = .ok request ∧
    ⟨.api .management request, .ok response⟩ ∈ es ∧
      response.decode (ApiResponse.objects ProviderObject.decode) = .ok objects ∧
        c.object ∈ objects

/-- In the exchanges, the target is what came of the cluster when it was looked into. -/
def IsBuilt (azureMinimum : Version) (es : List (Exchange Effects)) (c : Candidate) (t : Target) :
    Prop :=
  ∃ asked, asked <:+: es ∧ (resolve azureMinimum c).run.Leads asked (.done (.ok (some t)))

/-- A cluster that is looked into was listed, and is a candidate. -/
theorem isListed_of_mem_candidates {l : Listing} {c : Candidate} (h : c ∈ l.candidates) :
    IsListed l.exchanges c ∧ c.provider.isCandidate c.object = true := by
  cases hfound : l.found with
  | error e =>
    rw [l.candidates_eq_nil (Listing.of_found_error hfound).1] at h
    cases h
  | ok objects =>
    rw [(Listing.of_found_ok hfound).2.2] at h
    obtain ⟨o, ho, rfl⟩ := List.mem_map.1 h
    obtain ⟨listed, candidate⟩ := List.mem_filter.1 ho
    refine ⟨?_, candidate⟩
    obtain ⟨p, request, asked, answer⟩ := l
    cases answer with
    | error text => cases hfound
    | ok response => exact ⟨request, response, objects, asked, .head _, hfound, listed⟩

/-- The exchanges of a step are part of those of the discovery. -/
theorem Survey.infix_exchanges_of_mem_listings {s : Survey azureMinimum} {l : Listing}
    (h : l ∈ s.listings) : l.exchanges <:+: s.exchanges := by
  have hstep : l.exchanges <:+: s.listings.flatMap Listing.exchanges :=
    List.infix_of_mem_flatten (List.mem_map_of_mem h)
  exact hstep.trans (List.prefix_append _ _).isInfix

theorem Survey.infix_exchanges_of_mem_resolutions {s : Survey azureMinimum}
    (succeeded : ¬s.HasFailed) {r : Resolution azureMinimum} (h : r ∈ s.resolutions) :
    r.asked <:+: s.exchanges := by
  have hstep : r.exchanges <:+: s.resolutions.flatMap Resolution.exchanges :=
    List.infix_of_mem_flatten (List.mem_map_of_mem h)
  rw [Survey.exchanges, if_neg succeeded]
  exact (((List.prefix_append _ _).isInfix.trans hstep).trans
    (List.suffix_cons _ _).isInfix).trans (List.suffix_append _ _).isInfix

/-- What discovery comes to was built from objects that were listed. -/
theorem exists_of_mem_tenants {tenants : List Target} {t : Target}
    (course : (tenantClusters azureMinimum).Leads es (.done (.ok tenants))) (ht : t ∈ tenants) :
    ∃ c, IsListed es c ∧ c.provider.isCandidate c.object = true ∧ IsBuilt azureMinimum es c t ∧
      Represents azureMinimum c t := by
  obtain ⟨s, rfl, hresult⟩ := leads_tenantClusters_iff.1 course
  by_cases failed : s.HasFailed
  · rw [Survey.result, if_pos failed] at hresult
    cases hresult
  rw [Survey.result, if_neg failed] at hresult
  cases hresult
  obtain ⟨r, hr, htarget⟩ := List.mem_filterMap.1 ht
  have hcandidate : r.candidate ∈ s.listings.flatMap Listing.candidates :=
    s.order ▸ List.mem_map_of_mem hr
  obtain ⟨l, hl, hmem⟩ := List.mem_flatMap.1 hcandidate
  obtain ⟨⟨request, response, objects, hrequest, hexchange, hrest⟩, candidate⟩ :=
    isListed_of_mem_candidates hmem
  have resolved := r.target?_eq_some_iff.1 htarget
  exact ⟨r.candidate,
    ⟨request, response, objects, hrequest,
      (Survey.infix_exchanges_of_mem_listings hl).subset hexchange, hrest⟩,
    candidate, ⟨r.asked, Survey.infix_exchanges_of_mem_resolutions failed hr,
      leads_resolve_iff.2 resolved⟩, resolved.represents⟩

/-- Only eligible clusters are targets. -/
theorem targets_eligible {tenants : List Target} {spec : Spec} {management : Target}
    {skipManagement : Bool} {selection : Selection}
    (course : (tenantClusters azureMinimum).Leads es (.done (.ok tenants)))
    (selected : Selection.ofSpec spec management skipManagement tenants = .ok selection) :
    (∀ t ∈ selection.targets, t = management ∨
      ∃ c, IsListed es c ∧ IsEligible azureMinimum c ∧ IsBuilt azureMinimum es c t) ∧
    ∀ name ∈ spec.clusterNames, name ≠ managementName →
      (name = management.name → managementName ∉ spec.clusterNames) →
      (∀ c, IsListed es c → c.object.name = name → ¬IsEligible azureMinimum c) →
      ∃ u ∈ selection.unresolved, u.name = name := by
  refine ⟨fun t ht ↦ ?_, fun name hname free own ineligible ↦ ?_⟩
  · refine (Selection.mem_targets_of_ofSpec selected ht).imp_right fun ⟨hmem, supported⟩ ↦ ?_
    obtain ⟨c, listed, candidate, built, represents⟩ := exists_of_mem_tenants course hmem
    exact ⟨c, listed, isEligible_of_represents candidate represents supported, built⟩
  · refine Selection.exists_unresolved_of_ofSpec selected hname free own fun t ht htname ↦ ?_
    obtain ⟨c, listed, candidate, -, represents⟩ := exists_of_mem_tenants course ht
    refine Bool.eq_false_iff.2 fun supported ↦ ?_
    exact ineligible c listed (represents.name.symm.trans htname)
      (isEligible_of_represents candidate represents supported)

end

/-! ### A cluster that opted out -/

/-- Two clusters on KVM, of which the second opted out. -/
def twoClusters : Json :=
  .object [("items", .array [kvmCluster,
    .object [("metadata", .object [("annotations", .object [( skipAnnotation, .string "true")]),
      ("name", .string "b")])]])]

/-- What is answered when only KVM is served. -/
def kvmReplies : List Work.Reply :=
  [.api (.error ""), .api (.error ""), replied twoClusters, .api (.error ""), replied oneSecret]

/-- The first cluster becomes a target, and no object of the second is eligible. -/
theorem exists_course_kvm :
    ∃ es, (tenantClusters ⟨0, 2, 0, [], []⟩).Leads es (.done (.ok [kvmTarget])) ∧
      ∀ c, IsListed es c → c.object.name = "b" → ¬IsEligible ⟨0, 2, 0, [], []⟩ c := by
  have replayed : Work.replay (tenantClusters ⟨0, 2, 0, [], []⟩) kvmReplies =
      some (.ok [kvmTarget]) := by decide +kernel
  have optedOut : ∀ reply ∈ kvmReplies, ∀ response ∈ reply.response?,
      ∀ objects ∈ (response.decode (ApiResponse.objects ProviderObject.decode)).toOption,
        ∀ o ∈ objects, o.name = "b" → Provider.isSkipped o = true := by decide +kernel
  obtain ⟨es, hes, course⟩ := Work.exists_leads_of_replay replayed
  refine ⟨es, course, ?_⟩
  rintro c ⟨request, response, objects, -, hexchange, hdecode, hmem⟩ hname eligible
  have hreply : .api (.ok response) ∈ kvmReplies := by
    rw [← hes]
    exact List.mem_filterMap.2 ⟨_, hexchange, rfl⟩
  have hskip := optedOut _ hreply response rfl objects (by rw [hdecode]; rfl) c.object hmem hname
  rw [eligible.isSkipped_eq_false] at hskip
  cases hskip

/-- Both clusters are asked for: the first is a target, the second is listed as unresolved. -/
theorem targets_eligible_kvm : ∃ es selection,
    (tenantClusters ⟨0, 2, 0, [], []⟩).Leads es (.done (.ok [kvmTarget])) ∧
      Selection.ofSpec { clusterNames := ["a", "b"] } (Target.management "" {}) false
        [kvmTarget] = .ok selection ∧
      (∃ c, IsListed es c ∧ IsEligible ⟨0, 2, 0, [], []⟩ c ∧
        IsBuilt ⟨0, 2, 0, [], []⟩ es c kvmTarget) ∧
      ∃ u ∈ selection.unresolved, u.name = "b" := by
  obtain ⟨es, course, ineligible⟩ := exists_course_kvm
  have selected : Selection.ofSpec { clusterNames := ["a", "b"] } (Target.management "" {}) false
      [kvmTarget] = .ok ⟨[kvmTarget], [⟨"b", Selection.notFoundReason⟩]⟩ := rfl
  have eligible := targets_eligible course selected
  exact ⟨es, _, course, selected,
    (eligible.1 kvmTarget (.head _)).resolve_left (by decide),
    eligible.2 "b" (by decide) (by decide) (by decide) ineligible⟩

/-- Where the management cluster has the name of the second cluster and is asked for under the
reserved name, the second cluster is not listed as unresolved. -/
theorem not_unresolved_of_ineligible :
    ¬∀ (azureMinimum : Version) (es : List (Exchange Effects)) (tenants : List Target)
      (spec : Spec) (management : Target) (skipManagement : Bool) (selection : Selection),
      (tenantClusters azureMinimum).Leads es (.done (.ok tenants)) →
      Selection.ofSpec spec management skipManagement tenants = .ok selection →
      ∀ name ∈ spec.clusterNames, name ≠ managementName →
        (∀ c, IsListed es c → c.object.name = name → ¬IsEligible azureMinimum c) →
        ∃ u ∈ selection.unresolved, u.name = name := by
  intro h
  obtain ⟨es, course, ineligible⟩ := exists_course_kvm
  have selected : Selection.ofSpec { clusterNames := [managementName, "b"] } { name := "b" } false
      [kvmTarget] = .ok { targets := [{ name := "b" }] } := rfl
  obtain ⟨u, hu, -⟩ := h _ es _ _ _ _ _ course selected "b" (by decide) (by decide) ineligible
  cases hu

end EtcdBackup.Discovery
