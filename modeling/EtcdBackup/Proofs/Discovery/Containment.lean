import EtcdBackup.Proofs.Discovery.Resolution
import Mathlib.Data.List.Basic

/-!
# Failures of discovery are contained

Discovery asks the API server of the management cluster for the clusters of each provider and then
looks into each cluster that was listed. `Listing` and `Resolution` are the two kinds of steps, and
a `Survey` has all steps of one discovery. The courses of discovery are exactly the surveys: it
comes to the targets of the clusters in the order in which they were listed, one for each cluster
that could be resolved, unless no provider could be listed (`leads_tenantClusters_iff`).

What comes of a cluster is said by its object, the minimum release and the answers to requests about
this cluster. So a failure never reaches further than the step in which it happens
(`failures_contained`).
-/

set_option autoImplicit false
set_option relaxedAutoImplicit false

namespace EtcdBackup.Discovery

open Dialogue

/-! ### Listing the clusters of a provider -/

/-- The clusters of a provider were asked for. -/
structure Listing where
  provider : Provider
  request : ApiRequest
  asked : ApiRequest.list ⟨provider.resource, none⟩ [] = .ok request
  /-- What the API server of the management cluster answered, or why the connection broke. -/
  answer : Except String ApiResponse

namespace Listing

variable (l : Listing)

/-- What was listed: the objects that the answer holds. -/
def found : Except KubeError (List ProviderObject) :=
  match l.answer with
  | .error text => .error (.service text)
  | .ok response => response.decode (ApiResponse.objects ProviderObject.decode)

/-- The connection broke, or the answer holds no list of objects. -/
def HasFailed : Prop := l.found.isOk = false

instance : Decidable l.HasFailed := inferInstanceAs (Decidable (_ = _))

/-- What is noted about a provider that could not be listed. -/
def notes : List (Exchange Effects) :=
  match l.found with
  | .ok _ => []
  | .error e =>
    let event := if (Error.kube e).isNotFound then Event.notServed l.provider
      else .listingFailed l.provider (.kube e)
    [⟨.note event, ()⟩]

/-- All exchanges of the step. -/
def exchanges : List (Exchange Effects) := ⟨.api .management l.request, l.answer⟩ :: l.notes

/-- The clusters that are looked into, as they were listed. -/
def candidates : List Candidate :=
  match l.found with
  | .ok objects => (objects.filter l.provider.isCandidate).map (Candidate.mk l.provider)
  | .error _ => []

variable {l} in
theorem of_found_ok {objects : List ProviderObject} (h : l.found = .ok objects) :
    ¬l.HasFailed ∧ l.notes = [] ∧
      l.candidates = (objects.filter l.provider.isCandidate).map (Candidate.mk l.provider) := by
  rw [HasFailed, notes, candidates, h]
  exact ⟨nofun, rfl, rfl⟩

variable {l} in
theorem of_found_error {e : KubeError} (h : l.found = .error e) :
    l.HasFailed ∧ l.notes = [⟨.note (if (Error.kube e).isNotFound then .notServed l.provider
      else .listingFailed l.provider (.kube e)), ()⟩] := by
  rw [HasFailed, notes, h]
  exact ⟨rfl, rfl⟩

theorem candidates_eq_nil (h : l.HasFailed) : l.candidates = [] := by
  unfold candidates
  cases found : l.found with
  | ok objects => exact ((of_found_ok found).1 h).elim
  | error e => rfl

theorem flatMap_candidates_eq_nil {ls : List Listing} (h : ∀ l ∈ ls, l.HasFailed) :
    ls.flatMap candidates = [] :=
  List.flatMap_eq_nil_iff.2 fun l hl ↦ l.candidates_eq_nil (h l hl)

end Listing

/-- The list of the clusters of a provider can be asked for. -/
theorem exists_listRequest (p : Provider) :
    ∃ request, ApiRequest.list ⟨p.resource, none⟩ [] = .ok request := by
  have valid : (ApiRequest.list ⟨p.resource, none⟩ []).toOption.isSome := by
    cases p <;> decide +kernel
  cases request : ApiRequest.list ⟨p.resource, none⟩ [] with
  | error e =>
    rw [request] at valid
    cases valid
  | ok sent => exact ⟨sent, rfl⟩

/-! ### Looking into a cluster -/

/-- A cluster was looked into. -/
structure Resolution (azureMinimum : Version) where
  candidate : Candidate
  asked : List (Exchange Effects)
  result : Except Error (Option Target)
  course : (resolve azureMinimum candidate).run.Leads asked (.done result)

namespace Resolution

variable {azureMinimum : Version} (r : Resolution azureMinimum)

/-- The target that the cluster becomes. -/
def target? : Option Target :=
  match r.result with
  | .ok target => target
  | .error _ => none

/-- What is noted about a cluster that could not be resolved. -/
def notes : List (Exchange Effects) :=
  match r.result with
  | .ok _ => []
  | .error e => [⟨.note (.unresolved r.candidate.object.name r.candidate.provider e), ()⟩]

/-- All exchanges of the step. -/
def exchanges : List (Exchange Effects) := r.asked ++ r.notes

theorem result_eq_iff {t : Target} : r.target? = some t ↔ r.result = .ok (some t) := by
  unfold target?
  cases r.result with
  | ok target => simp
  | error e => simp

/-- The target that a cluster becomes is said by the exchanges. -/
theorem target?_eq_some_iff {t : Target} :
    r.target? = some t ↔ IsResolved azureMinimum r.candidate r.asked t := by
  rw [result_eq_iff, ← leads_resolve_iff]
  have course := r.course
  constructor
  · intro hresult
    rwa [hresult] at course
  · intro h
    exact Dialogue.done.inj (course.unique h)

end Resolution

section

variable {azureMinimum : Version} {es : List (Exchange Effects)}

theorem leads_listed_iff {p : Provider} {found : Except KubeError (List ProviderObject)} :
    (listed p).Leads es (.done found) ↔
      ∃ l : Listing, l.provider = p ∧ es = [⟨.api .management l.request, l.answer⟩] ∧
        found = l.found := by
  obtain ⟨request, asked⟩ := exists_listRequest p
  unfold listed Work.request
  rw [asked]
  constructor
  · intro h
    obtain ⟨answer, _, rfl, hend⟩ := leads_ask_done_iff.1 h
    refine ⟨⟨p, request, asked, answer⟩, rfl, ?_⟩
    unfold Listing.found
    dsimp only
    cases answer with
    | error text =>
      cases hend
      exact ⟨rfl, rfl⟩
    | ok response =>
      obtain ⟨rfl, hfound⟩ := Dialogue.leads_done_iff.1 hend
      exact ⟨rfl, hfound.symm⟩
  · rintro ⟨⟨p, request', asked', answer⟩, rfl, rfl, rfl⟩
    cases asked.symm.trans asked'
    refine .ask ?_
    unfold Listing.found
    cases answer <;> exact .rest _

theorem leads_candidatesOf_iff {p : Provider} {found : Option (List Candidate)} :
    (candidatesOf p).Leads es (.done found) ↔
      ∃ l : Listing, l.provider = p ∧ es = l.exchanges ∧
        found = if l.HasFailed then none else some l.candidates := by
  constructor
  · intro h
    obtain ⟨_, _, behind, rfl, course, hbehind⟩ := leads_bind_done_iff.1 h
    obtain ⟨l, rfl, rfl, rfl⟩ := leads_listed_iff.1 course
    refine ⟨l, rfl, ?_⟩
    rw [Listing.exchanges, List.singleton_append]
    cases found : l.found with
    | ok objects =>
      obtain ⟨succeeded, quiet, candidates⟩ := Listing.of_found_ok found
      rw [found] at hbehind
      cases hbehind
      rw [quiet, candidates, if_neg succeeded]
      exact ⟨rfl, rfl⟩
    | error e =>
      obtain ⟨failed, noted⟩ := Listing.of_found_error found
      rw [found] at hbehind
      obtain ⟨_, _, rfl, hend⟩ := leads_ask_done_iff.1 hbehind
      cases hend
      rw [noted, if_pos failed]
      exact ⟨rfl, rfl⟩
  · rintro ⟨l, rfl, rfl, rfl⟩
    rw [Listing.exchanges, ← List.singleton_append]
    refine (leads_listed_iff.2 ⟨l, rfl, rfl, rfl⟩).bind_done ?_
    cases found : l.found with
    | ok objects =>
      obtain ⟨succeeded, quiet, candidates⟩ := Listing.of_found_ok found
      rw [quiet, candidates, if_neg succeeded]
      exact .rest _
    | error e =>
      obtain ⟨failed, noted⟩ := Listing.of_found_error found
      rw [noted, if_pos failed]
      exact .ask (.rest _)

/-- What the listings of a provider and of others come to together. -/
theorem merged_listings (l : Listing) (ls : List Listing) :
    (match (if l.HasFailed then none else some l.candidates),
        (if ∀ l ∈ ls, l.HasFailed then none else some (ls.flatMap Listing.candidates)) with
      | none, others => others
      | first, none => first
      | some first, some others => some (first ++ others)) =
    if ∀ l' ∈ l :: ls, l'.HasFailed then none
    else some ((l :: ls).flatMap Listing.candidates) := by
  rw [List.flatMap_cons]
  by_cases failed : l.HasFailed
  · rw [if_pos failed, l.candidates_eq_nil failed, List.nil_append]
    simp only [List.forall_mem_cons, failed, true_and]
  · rw [if_neg failed, if_neg (c := ∀ l' ∈ l :: ls, _) fun h ↦ failed (h l List.mem_cons_self)]
    by_cases others : ∀ l ∈ ls, l.HasFailed
    · rw [if_pos others, Listing.flatMap_candidates_eq_nil others, List.append_nil]
    · rw [if_neg others]

/-- Listing all providers is listing one after the other, and comes to nothing if every listing
failed. -/
theorem leads_candidates_iff {providers : List Provider} {found : Option (List Candidate)} :
    (candidates providers).Leads es (.done found) ↔
      ∃ ls : List Listing, ls.map Listing.provider = providers ∧
        es = ls.flatMap Listing.exchanges ∧
        found = if ∀ l ∈ ls, l.HasFailed then none else some (ls.flatMap Listing.candidates) := by
  induction providers generalizing es found with
  | nil =>
    constructor
    · intro h
      cases h
      exact ⟨[], rfl, rfl, rfl⟩
    · rintro ⟨ls, hls, rfl, rfl⟩
      obtain rfl := List.map_eq_nil_iff.1 hls
      exact .rest _
  | cons p rest ih =>
    constructor
    · intro h
      obtain ⟨_, first, _, rfl, hfirst, hbehind⟩ := leads_bind_done_iff.1 h
      obtain ⟨_, others, _, rfl, hothers, hend⟩ := leads_bind_done_iff.1 hbehind
      obtain ⟨l, rfl, rfl, rfl⟩ := leads_candidatesOf_iff.1 hfirst
      obtain ⟨ls, rfl, rfl, rfl⟩ := ih.1 hothers
      cases hend
      exact ⟨l :: ls, rfl, by simp, merged_listings l ls⟩
    · rintro ⟨ls, hls, rfl, rfl⟩
      obtain ⟨l, ls, rfl, rfl, rfl⟩ := List.map_eq_cons_iff.1 hls
      have hfirst := leads_candidatesOf_iff.2 ⟨l, rfl, rfl, rfl⟩
      have hothers := ih.2 ⟨ls, rfl, rfl, rfl⟩
      rw [← merged_listings, List.flatMap_cons, ← List.append_nil (ls.flatMap _)]
      exact hfirst.bind_done (hothers.bind_done (.rest _))

/-- Behind the look into a cluster its failure is noted, and the other clusters follow. -/
theorem leads_resolveAll_cons_iff {c : Candidate} {cs : List Candidate} {targets : List Target} :
    (resolveAll azureMinimum (c :: cs)).Leads es (.done targets) ↔
      ∃ (r : Resolution azureMinimum) (es' : List (Exchange Effects)) (others : List Target),
        r.candidate = c ∧ es = r.exchanges ++ es' ∧
          (resolveAll azureMinimum cs).Leads es' (.done others) ∧
          targets = r.target?.toList ++ others := by
  constructor
  · intro h
    obtain ⟨asked, result, behind, rfl, course, hbehind⟩ := leads_bind_done_iff.1 h
    refine ⟨⟨c, asked, result, course⟩, ?_⟩
    rcases result with e | _ | t
    · obtain ⟨_, es', rfl, hothers⟩ := leads_ask_done_iff.1 hbehind
      exact ⟨es', targets, rfl, by simp [Resolution.exchanges, Resolution.notes], hothers, rfl⟩
    · exact ⟨behind, targets, rfl, by simp [Resolution.exchanges, Resolution.notes], hbehind,
        rfl⟩
    · obtain ⟨es', others, _, rfl, hothers, hend⟩ := leads_bind_done_iff.1 hbehind
      cases hend
      exact ⟨es', others, rfl, by simp [Resolution.exchanges, Resolution.notes], hothers, rfl⟩
  · rintro ⟨⟨c, asked, result, course⟩, es', others, rfl, rfl, hothers, rfl⟩
    rw [Resolution.exchanges, List.append_assoc]
    refine course.bind_done ?_
    rcases result with e | _ | t
    · exact .ask hothers
    · exact hothers
    · have hend := hothers.bind (fun others ↦ Dialogue.done (t :: others))
      exact hend

/-- Looking into clusters is looking into one after the other, and comes to the targets of those
that could be resolved. -/
theorem leads_resolveAll_iff {cs : List Candidate} {targets : List Target} :
    (resolveAll azureMinimum cs).Leads es (.done targets) ↔
      ∃ rs : List (Resolution azureMinimum), rs.map Resolution.candidate = cs ∧
        es = rs.flatMap Resolution.exchanges ∧ targets = rs.filterMap Resolution.target? := by
  induction cs generalizing es targets with
  | nil =>
    constructor
    · intro h
      cases h
      exact ⟨[], rfl, rfl, rfl⟩
    · rintro ⟨rs, hrs, rfl, rfl⟩
      obtain rfl := List.map_eq_nil_iff.1 hrs
      exact .rest _
  | cons c rest ih =>
    have htargets (r : Resolution azureMinimum) (rs : List (Resolution azureMinimum)) :
        (r :: rs).filterMap Resolution.target? =
          r.target?.toList ++ rs.filterMap Resolution.target? := by
      rw [List.filterMap_cons]
      cases r.target? <;> rfl
    rw [leads_resolveAll_cons_iff]
    constructor
    · rintro ⟨r, es', others, rfl, rfl, hothers, rfl⟩
      obtain ⟨rs, rfl, rfl, rfl⟩ := ih.1 hothers
      exact ⟨r :: rs, rfl, rfl, (htargets r rs).symm⟩
    · rintro ⟨rs, hrs, rfl, rfl⟩
      obtain ⟨r, rs, rfl, rfl, rfl⟩ := List.map_eq_cons_iff.1 hrs
      exact ⟨r, _, _, rfl, rfl, ih.2 ⟨rs, rfl, rfl, rfl⟩, htargets r rs⟩

end

/-! ### Looking up all clusters -/

/-- The steps of one discovery: every provider is listed, and every cluster that is looked into is
resolved, each in its turn. -/
structure Survey (azureMinimum : Version) where
  listings : List Listing
  resolutions : List (Resolution azureMinimum)
  providers : listings.map Listing.provider = Provider.all
  order : resolutions.map Resolution.candidate = listings.flatMap Listing.candidates

namespace Survey

variable {azureMinimum : Version} (s : Survey azureMinimum)

/-- No provider could be listed. -/
def HasFailed : Prop := ∀ l ∈ s.listings, l.HasFailed

instance : Decidable s.HasFailed := inferInstanceAs (Decidable (∀ l ∈ _, _))

/-- All exchanges of the discovery, in their order; the clusters are counted once they are listed,
and none is looked into if no provider could be listed. -/
def exchanges : List (Exchange Effects) :=
  s.listings.flatMap Listing.exchanges ++
    if s.HasFailed then []
    else ⟨.note (.found s.resolutions.length), ()⟩ :: s.resolutions.flatMap Resolution.exchanges

/-- What the discovery comes to. -/
def result : Except Error (List Target) :=
  if s.HasFailed then .error .noProviderReachable
  else .ok (s.resolutions.filterMap Resolution.target?)

end Survey

/-- The courses of discovery are the surveys. -/
theorem leads_tenantClusters_iff {azureMinimum : Version} {es : List (Exchange Effects)}
    {result : Except Error (List Target)} :
    (tenantClusters azureMinimum).Leads es (.done result) ↔
      ∃ s : Survey azureMinimum, es = s.exchanges ∧ result = s.result := by
  constructor
  · intro h
    obtain ⟨_, found, behind, rfl, hlisted, hbehind⟩ := leads_bind_done_iff.1 h
    obtain ⟨ls, providers, rfl, rfl⟩ := leads_candidates_iff.1 hlisted
    by_cases failed : ∀ l ∈ ls, l.HasFailed
    · rw [if_pos failed] at hbehind
      cases hbehind
      -- Nothing was listed, so there is nothing that could have been looked into.
      have hnone := Listing.flatMap_candidates_eq_nil failed
      exact ⟨⟨ls, [], providers, hnone.symm⟩, congrArg (_ ++ ·) (if_pos failed).symm,
        (if_pos failed).symm⟩
    · rw [if_neg failed] at hbehind
      obtain ⟨_, noted, rfl, hnoted⟩ := leads_ask_done_iff.1 hbehind
      obtain ⟨_, targets, _, rfl, hresolved, hend⟩ :=
        leads_bind_done_iff (d := resolveAll azureMinimum (ls.flatMap Listing.candidates)).1 hnoted
      cases hend
      obtain ⟨rs, order, rfl, rfl⟩ := leads_resolveAll_iff.1 hresolved
      refine ⟨⟨ls, rs, providers, order⟩, ?_, (if_neg failed).symm⟩
      rw [List.append_nil, ← order, List.length_map]
      exact congrArg (_ ++ ·) (if_neg failed).symm
  · rintro ⟨s, rfl, rfl⟩
    have hlisted := leads_candidates_iff.2 ⟨s.listings, s.providers, rfl, rfl⟩
    refine hlisted.bind_done ?_
    unfold Survey.result
    by_cases failed : s.HasFailed
    · rw [if_pos failed, if_pos failed, if_pos (show ∀ l ∈ s.listings, l.HasFailed from failed)]
      exact .rest _
    · rw [if_neg failed, if_neg failed, if_neg (show ¬∀ l ∈ s.listings, l.HasFailed from failed)]
      have hresolved := leads_resolveAll_iff.2 ⟨s.resolutions, s.order, rfl, rfl⟩
      have hend := hresolved.bind fun targets ↦ Dialogue.done (Except.ok (ε := Error) targets)
      rw [← List.length_map Resolution.candidate, s.order]
      exact .ask hend

theorem Survey.result_eq_of_nil {azureMinimum : Version} {s : Survey azureMinimum}
    (succeeded : ¬s.HasFailed) (empty : ∀ l ∈ s.listings, l.candidates = []) :
    s.result = .ok [] := by
  have none_found : s.resolutions.map Resolution.candidate = [] := by
    rw [s.order]
    exact List.flatMap_eq_nil_iff.2 empty
  rw [Survey.result, if_neg succeeded, List.map_eq_nil_iff.1 none_found]
  rfl

/-- Failures are contained. Discovery fails exactly if no provider could be listed, and otherwise
comes to the targets of the clusters in the order of the listings. Whether a cluster becomes a
target, and which, is said by its object, the minimum release and the answers in the step in which
it was looked into. All requests of that step are about this cluster, and where they are answered in
the same way the same comes of it. -/
theorem failures_contained (azureMinimum : Version) :
    (∀ es result, (tenantClusters azureMinimum).Leads es (.done result) ↔
      ∃ s : Survey azureMinimum, es = s.exchanges ∧
        result = if ∀ l ∈ s.listings, l.HasFailed then .error .noProviderReachable
          else .ok (s.resolutions.filterMap Resolution.target?)) ∧
    (∀ s : Survey azureMinimum, (∃ l ∈ s.listings, ¬l.HasFailed) →
      (∀ l ∈ s.listings, l.candidates = []) → s.result = .ok []) ∧
    ∀ r : Resolution azureMinimum,
      (∀ t, r.target? = some t ↔ IsResolved azureMinimum r.candidate r.asked t) ∧
      (∀ before e after, r.asked = before ++ e :: after →
        IsAbout r.candidate before e.request) ∧
      ∀ r' : Resolution azureMinimum, r'.candidate = r.candidate →
        Work.replies r'.asked = Work.replies r.asked → r'.result = r.result := by
  refine ⟨fun _ _ ↦ leads_tenantClusters_iff, ?_, fun r ↦ ⟨fun _ ↦ r.target?_eq_some_iff, ?_, ?_⟩⟩
  · rintro s ⟨l, hl, succeeded⟩ empty
    exact Survey.result_eq_of_nil (fun failed ↦ succeeded (failed l hl)) empty
  · intro before e after hasked
    exact isAbout_of_leads (hasked ▸ r.course)
  · intro r' hcandidate same
    exact result_eq_of_replies r'.course (hcandidate ▸ r.course) same

/-! ### Two providers that fail -/

/-- A cluster on KVM. -/
def kvmCluster : Json :=
  .object [("metadata", .object [("name", .string "a")]),
    ("spec", .object [("cluster", .object [("etcd", .object [("domain", .string "etcd.a")])])])]

/-- A cluster of the Cluster API. -/
def capiCluster : Json :=
  .object [("metadata", .object [("name", .string "d"), ("namespace", .string "org")]),
    ("status", .object [("initialization", .object [
      ("controlPlaneInitialized", .bool true), ("infrastructureProvisioned", .bool true)])])]

/-- A kubeconfig in the form in which such clusters have it. -/
def blockKubeconfig : String :=
  "clusters:\n- cluster:\n    server: https://d\n  name: d\ncontexts:\n- context:\n    cluster: d\n  name: d\ncurrent-context: d\n"

/-- The same in base64. -/
def encodedKubeconfig : String :=
  "Y2x1c3RlcnM6Ci0gY2x1c3RlcjoKICAgIHNlcnZlcjogaHR0cHM6Ly9kCiAgbmFtZTogZApjb250ZXh0czoKLSBjb250ZXh0OgogICAgY2x1c3RlcjogZAogIG5hbWU6IGQKY3VycmVudC1jb250ZXh0OiBkCg=="

/-- An answer with a document. -/
def replied (body : Json) : Work.Reply := .api (.ok ⟨200, body.compact⟩)

/-- The secret with the client certificates of a cluster. -/
def oneSecret : Json :=
  .object [("items", .array [
    .object [("data", .object [("ca", .string ""), ("crt", .string ""), ("key", .string "")])]])]

/-- What is answered when two providers cannot be listed, and the others have one cluster each. -/
def halfReplies : List Work.Reply :=
  [.api (.error ""), .api (.ok ⟨404, ""⟩), replied (.object [("items", .array [kvmCluster])]),
    replied (.object [("items", .array [capiCluster])]), replied oneSecret,
    replied (.object [("data", .object [("tls.crt", .string ""), ("tls.key", .string "")])]),
    replied (.object [("data", .object [("value", .string encodedKubeconfig)])]),
    .access (.ok ⟨some "https", "d", ⟨"/", none⟩⟩),
    replied (.object [("items", .array [
      .object [("metadata", .object [("name", .string "etcd-0")])]])])]

/-- The target of the cluster on KVM. -/
def kvmTarget : Target :=
  { name := "a", v3 := { endpoints := "https://etcd.a:443", tls := some {} } }

/-- The target of the cluster of the Cluster API. -/
def capiTarget : Target :=
  { name := "d"
    v3 := { endpoints := "https://etcd-0:2379", tls := some { domain := some "localhost" },
            proxy := some ⟨blockKubeconfig, "kube-system", "etcd-0", 2379⟩ } }

theorem replay_halfReplies :
    Work.replay (tenantClusters ⟨0, 2, 0, [], []⟩) halfReplies =
      some (.ok [kvmTarget, capiTarget]) := by
  decide +kernel

theorem Listing.replies_exchanges (l : Listing) : Work.replies l.exchanges = [.api l.answer] := by
  unfold exchanges notes
  cases l.found <;> rfl

/-- The first replies are the answers about the providers. -/
theorem Survey.answers_isPrefix {azureMinimum : Version} (s : Survey azureMinimum) :
    s.listings.map (fun l ↦ Work.Reply.api l.answer) <+: Work.replies s.exchanges := by
  have listed : s.listings.map (fun l ↦ Work.Reply.api l.answer) =
      Work.replies (s.listings.flatMap Listing.exchanges) := by
    induction s.listings with
    | nil => rfl
    | cons l ls ih =>
      rw [List.map_cons, ih, List.flatMap_cons, Work.replies_append, l.replies_exchanges,
        List.singleton_append]
  rw [listed, Survey.exchanges, Work.replies_append]
  exact List.prefix_append _ _

/-- Two providers cannot be listed, and the clusters of the others become targets. -/
theorem failures_contained_half :
    ∃ s : Survey ⟨0, 2, 0, [], []⟩,
      (tenantClusters ⟨0, 2, 0, [], []⟩).Leads s.exchanges
        (.done (.ok [kvmTarget, capiTarget])) ∧
      (∀ l ∈ s.listings, l.provider = .aws ∨ l.provider = .azure → l.HasFailed) ∧
      ∃ r ∈ s.resolutions, IsResolved ⟨0, 2, 0, [], []⟩ r.candidate r.asked capiTarget := by
  obtain ⟨es, hes, course⟩ := Work.exists_leads_of_replay replay_halfReplies
  obtain ⟨surveys, -, resolutions⟩ := failures_contained ⟨0, 2, 0, [], []⟩
  obtain ⟨s, rfl, hresult⟩ := (surveys es _).1 course
  refine ⟨s, course, ?_, ?_⟩
  · have answers := s.answers_isPrefix
    obtain ⟨aws, ls, hls, haws, hproviders⟩ := List.map_eq_cons_iff.1 s.providers
    obtain ⟨azure, ls', rfl, hazure, hproviders'⟩ := List.map_eq_cons_iff.1 hproviders
    rw [hes, hls, List.map_cons, List.map_cons, halfReplies, List.cons_prefix_cons,
      List.cons_prefix_cons] at answers
    obtain ⟨first, second, -⟩ := answers
    have awsFailed : aws.HasFailed := by
      rw [Listing.HasFailed, Listing.found, Work.Reply.api.inj first]
      rfl
    have azureFailed : azure.HasFailed := by
      rw [Listing.HasFailed, Listing.found, Work.Reply.api.inj second]
      decide +kernel
    rw [hls, List.forall_mem_cons, List.forall_mem_cons]
    refine ⟨fun _ ↦ awsFailed, fun _ ↦ azureFailed, fun l hl other ↦ ?_⟩
    have hprovider : l.provider ∈ [Provider.kvm, .capi] := hproviders' ▸ List.mem_map_of_mem hl
    rcases other with other | other <;> rw [other] at hprovider <;>
      exact absurd hprovider (by decide)
  · split at hresult
    · cases hresult
    · have hmem : capiTarget ∈ s.resolutions.filterMap Resolution.target? := by
        rw [← Except.ok.inj hresult]
        exact .tail _ (.head _)
      obtain ⟨r, hr, htarget⟩ := List.mem_filterMap.1 hmem
      exact ⟨r, hr, ((resolutions r).1 capiTarget).1 htarget⟩

end EtcdBackup.Discovery
