import EtcdBackup.Discovery.TenantClusters
import EtcdBackup.Proofs.Monitor

/-!
# Looking into a cluster

A cluster that was listed is looked into with requests for its secrets and, if it is one of the
Cluster API, with a look at the workload cluster itself. `IsResolved` says in which exchanges a
target comes of that, and which one it is. These are exactly the courses in which one does
(`leads_resolve_iff`).

Whether or not a target comes of it, every request is about this cluster: it asks for a secret of
its own, or follows the kubeconfig that was in one (`IsAbout`, `isAbout_of_leads`). And what comes
of it can be worked out from the answers alone (`Work.replay`, `result_eq_of_replies`). Where a kubeconfig
leads is one of the answers: nothing is asked here of how they are read.
-/

set_option autoImplicit false
set_option relaxedAutoImplicit false

namespace EtcdBackup

open Dialogue

/-! ### Answers to lookups -/

/-- A request that looking up clusters makes: for an object, for the way to a server, or to the
log. -/
def Effect.IsLookup : Effect → Prop
  | .api _ _ | .access _ | .note _ => True
  | _ => False

namespace Work

variable {α : Type}

/-- What a lookup is answered with. -/
inductive Reply
  | api (answer : Except String ApiResponse)
  | access (answer : Except AccessFault Uri)

/-- The response of an API server, if the reply is one. -/
def Reply.response? : Reply → Option ApiResponse
  | .api (.ok response) => some response
  | _ => none

/-- The answers to lookups, in the order in which they were asked. -/
def replies (es : List (Exchange Effects)) : List Reply :=
  es.filterMap fun
    | ⟨.api _ _, answer⟩ => some (.api answer)
    | ⟨.access _, answer⟩ => some (.access answer)
    | _ => none

theorem replies_append (es es' : List (Exchange Effects)) :
    replies (es ++ es') = replies es ++ replies es' :=
  List.filterMap_append

/-- What a computation that looks things up comes to when it is answered as in the list; `none` if
these are not the answers of a whole course. -/
def replay : Work α → List Reply → Option α
  | .done a, [] => some a
  | .ask (.api _ _) next, .api answer :: rest => replay (next answer) rest
  | .ask (.access _) next, .access answer :: rest => replay (next answer) rest
  | .ask (.note _) next, given => replay (next ()) given
  | _, _ => none

/-- On every course, a computation that looks things up comes to what the answers alone say. -/
theorem replay_of_leads {d : Work α} {es : List (Exchange Effects)} {a : α}
    (only : d.Only Effect.IsLookup) (course : d.Leads es (.done a)) :
    d.replay (replies es) = some a := by
  induction d generalizing es with
  | done b =>
    cases course
    rfl
  | ask request next ih =>
    obtain ⟨answer, es', rfl, hnext⟩ := leads_ask_done_iff.1 course
    have rest := ih answer (only.2 answer) hnext
    cases request with
    | api server request => exact rest
    | access kubeconfig => exact rest
    | note event => exact rest
    | _ => exact only.1.elim

/-- What a computation comes to on given answers it comes to on a course with these answers. -/
theorem exists_leads_of_replay {d : Work α} {given : List Reply} {a : α}
    (h : d.replay given = some a) : ∃ es, replies es = given ∧ d.Leads es (.done a) := by
  induction d generalizing given with
  | done b =>
    cases given with
    | nil =>
      cases h
      exact ⟨[], rfl, .rest _⟩
    | cons => cases h
  | ask request next ih =>
    cases request with
    | api server request =>
      cases given with
      | nil => cases h
      | cons reply given =>
        cases reply with
        | access => cases h
        | api answer =>
          obtain ⟨es, rfl, course⟩ := ih answer h
          exact ⟨⟨.api server request, answer⟩ :: es, rfl, .ask course⟩
    | access kubeconfig =>
      cases given with
      | nil => cases h
      | cons reply given =>
        cases reply with
        | api => cases h
        | access answer =>
          obtain ⟨es, rfl, course⟩ := ih answer h
          exact ⟨⟨.access kubeconfig, answer⟩ :: es, rfl, .ask course⟩
    | note event =>
      obtain ⟨es, rfl, course⟩ := ih () h
      exact ⟨⟨.note event, ()⟩ :: es, rfl, .ask course⟩
    | _ => cases h

end Work

namespace Discovery

/-! ### What a cluster is resolved from -/

/-- A value was asked for at an API server, and it was in the answer. -/
inductive IsFetched {α : Type} (server : ApiServer) (request : Except KubeError ApiRequest)
    (decode : Decoder α) : List (Exchange Effects) → α → Prop
  | intro {sent : ApiRequest} {response : ApiResponse} {a : α} (asked : request = .ok sent)
      (held : response.decode decode = .ok a) :
      IsFetched server request decode [⟨.api server sent, .ok response⟩] a

/-- The request for the secrets with the client certificates of a cluster. -/
def certificateRequest (cluster : String) : Except KubeError ApiRequest :=
  ApiRequest.list (secrets none) [("labelSelector", certificateSelector cluster)]

/-- The request for a secret that a cluster of the Cluster API has under its own name. -/
def secretRequest (cluster namespaceName suffix : String) : Except KubeError ApiRequest :=
  ApiRequest.get (secrets (some namespaceName)) (cluster ++ suffix)

/-- The request for the etcd pods of a workload cluster. -/
def podRequest : Except KubeError ApiRequest :=
  ApiRequest.list controlPlanePods [("labelSelector", etcdPodSelector)]

/-- The client certificates were in the one secret with the labels. -/
inductive IsLabelled (cluster : String) : List (Exchange Effects) → TlsMaterial → Prop
  | intro {es : List (Exchange Effects)} {secret : Secret} {ca cert key : Bytes}
      (only : IsFetched .management (certificateRequest cluster)
        (ApiResponse.objects Secret.decode) es [secret])
      (hca : secret.value "ca" = .ok ca) (hcert : secret.value "crt" = .ok cert)
      (hkey : secret.value "key" = .ok key) :
      IsLabelled cluster es { ca := ca, cert := cert, key := key }

/-- The client certificates were in a secret, and the kubeconfig in another one led to a server
with an etcd pod. -/
inductive IsForwarded (cluster namespaceName : String) :
    List (Exchange Effects) → V3Settings → Prop
  | intro {certified entered looked : List (Exchange Effects)} {certificates entry : Secret}
      {cert key text : Bytes} {kubeconfig : String} {address : Uri} {pods : List Pod}
      {pod : String}
      (hcertified : IsFetched .management (secretRequest cluster namespaceName "-etcd")
        Secret.decode certified certificates)
      (hcert : certificates.value "tls.crt" = .ok cert)
      (hkey : certificates.value "tls.key" = .ok key)
      (hentered : IsFetched .management (secretRequest cluster namespaceName "-kubeconfig")
        Secret.decode entered entry)
      (htext : entry.value "value" = .ok text) (hkubeconfig : Utf8.decode text = .ok kubeconfig)
      (hlooked : IsFetched (.workload address) podRequest (ApiResponse.objects Pod.decode) looked
        pods)
      (first : pods.head?.bind (·.metadata.name) = some pod) :
      IsForwarded cluster namespaceName
        (certified ++ (entered ++ (⟨.access kubeconfig, .ok address⟩ :: looked)))
        { endpoints := s!"https://{pod}:{etcdPort.toNat}"
          tls := some { ca := cert, cert := cert, key := key, domain := some "localhost" }
          proxy := some ⟨kubeconfig, "kube-system", pod, etcdPort⟩ }

/-- The namespace that a cluster is in. -/
def Candidate.namespaceName (c : Candidate) : String := c.object.metadata.namespaceName.getD ""

/-- What is noted about the release of a cluster. -/
def Candidate.releaseNotes (c : Candidate) (supported : Bool) : List (Exchange Effects) :=
  if !supported then [⟨.note (.releaseTooOld c.object.name), ()⟩] else []

/-- In the exchanges, the cluster becomes the target. -/
inductive IsResolved (azureMinimum : Version) (c : Candidate) :
    List (Exchange Effects) → Target → Prop
  | labelled {es : List (Exchange Effects)} {supported : Bool} {endpoint : String}
      {tls : TlsMaterial} (takesPart : Provider.isSkipped c.object = false)
      (release : c.provider.supportsBackup c.object azureMinimum = .ok supported)
      (hendpoint : c.provider.endpoint c.object = .ok (some endpoint))
      (htls : IsLabelled c.object.name es tls) :
      IsResolved azureMinimum c (c.releaseNotes supported ++ es)
        { name := c.object.name, v3 := { endpoints := endpoint, tls := some tls },
          supported := supported }
  | forwarded {es : List (Exchange Effects)} {supported : Bool} {v3 : V3Settings}
      (takesPart : Provider.isSkipped c.object = false)
      (release : c.provider.supportsBackup c.object azureMinimum = .ok supported)
      (hinside : c.provider.endpoint c.object = .ok none)
      (hv3 : IsForwarded c.object.name c.namespaceName es v3) :
      IsResolved azureMinimum c (c.releaseNotes supported ++ es)
        { name := c.object.name, v3 := v3, supported := supported }

/-- What a target has of the cluster that it stands for. -/
structure Represents (azureMinimum : Version) (c : Candidate) (t : Target) : Prop where
  name : t.name = c.object.name
  takesPart : Provider.isSkipped c.object = false
  release : c.provider.supportsBackup c.object azureMinimum = .ok t.supported

theorem IsResolved.represents {azureMinimum : Version} {c : Candidate}
    {es : List (Exchange Effects)} {t : Target} (h : IsResolved azureMinimum c es t) :
    Represents azureMinimum c t := by
  cases h with
  | labelled takesPart release | forwarded takesPart release => exact ⟨rfl, takesPart, release⟩

section

variable {α : Type} {azureMinimum : Version} {c : Candidate} {es : List (Exchange Effects)}

theorem leads_ask_ok_iff {server : ApiServer} {request : Except KubeError ApiRequest}
    {decode : Decoder α} {a : α} :
    (ask server request decode).run.Leads es (.done (.ok a)) ↔
      IsFetched server request decode es a := by
  constructor
  · intro h
    cases request with
    | error e => cases h
    | ok sent =>
      obtain ⟨answer, _, rfl, hend⟩ := leads_ask_done_iff.1 h
      cases answer with
      | error text => cases hend
      | ok response =>
        change (Dialogue.done ((response.decode decode).mapError Error.kube)).Leads _ _ at hend
        cases held : response.decode decode with
        | error e =>
          rw [held] at hend
          cases hend
        | ok found =>
          rw [held] at hend
          cases hend
          exact .intro rfl held
  · rintro ⟨rfl, held⟩
    refine .ask ?_
    change (Dialogue.done ((ApiResponse.decode decode _).mapError Error.kube)).Leads _ _
    rw [held]
    exact .rest _

/-- What is computed from what is known already is computed without a request. -/
theorem leads_liftM_bind_ok_iff {β : Type} {x : Except Error α}
    {k : α → ExceptT Error (Dialogue Effects) β} {b : β} :
    (liftM x >>= k).run.Leads es (.done (.ok b)) ↔
      ∃ a, x = .ok a ∧ (k a).run.Leads es (.done (.ok b)) := by
  cases x with
  | error e => exact ⟨nofun, nofun⟩
  | ok a => exact ⟨fun h ↦ ⟨a, rfl, h⟩, fun ⟨_, ha, h⟩ ↦ Except.ok.inj ha ▸ h⟩

theorem leads_access_ok_iff {kubeconfig : String} {address : Uri} :
    (Work.access kubeconfig).run.Leads es (.done (.ok address)) ↔
      es = [⟨.access kubeconfig, .ok address⟩] := by
  constructor
  · intro h
    obtain ⟨answer, _, rfl, hend⟩ := leads_ask_done_iff.1 h
    cases answer <;> cases hend
    rfl
  · rintro rfl
    exact .ask (.rest _)

theorem leads_labelledTls_iff {cluster : String} {tls : TlsMaterial} :
    (labelledTls cluster).run.Leads es (.done (.ok tls)) ↔ IsLabelled cluster es tls := by
  constructor
  · intro h
    obtain ⟨listed, found, _, rfl, hfound, behind⟩ := leads_bind_ok_iff.1 h
    match found, behind with
    | [secret], behind =>
      obtain ⟨ca, hca, behindCa⟩ := leads_liftM_bind_ok_iff.1 behind
      obtain ⟨cert, hcert, behindCert⟩ := leads_liftM_bind_ok_iff.1 behindCa
      obtain ⟨key, hkey, hend⟩ := leads_liftM_bind_ok_iff.1 behindCert
      cases hend
      rw [List.append_nil]
      exact .intro (leads_ask_ok_iff.1 hfound) hca hcert hkey
    | [], behind | _ :: _ :: _, behind => cases behind
  · rintro ⟨only, hca, hcert, hkey⟩
    rw [← List.append_nil es]
    refine leads_bind_ok_iff.2 ⟨_, _, _, rfl, leads_ask_ok_iff.2 only, ?_⟩
    refine leads_liftM_bind_ok_iff.2 ⟨_, hca, leads_liftM_bind_ok_iff.2 ⟨_, hcert, ?_⟩⟩
    exact leads_liftM_bind_ok_iff.2 ⟨_, hkey, .rest _⟩

theorem leads_forwardedV3_iff {cluster namespaceName : String} {v3 : V3Settings} :
    (forwardedV3 cluster namespaceName).run.Leads es (.done (.ok v3)) ↔
      IsForwarded cluster namespaceName es v3 := by
  constructor
  · intro h
    obtain ⟨certified, certificates, _, rfl, hcertified, behind⟩ := leads_bind_ok_iff.1 h
    obtain ⟨cert, hcert, behindCert⟩ := leads_liftM_bind_ok_iff.1 behind
    obtain ⟨key, hkey, behindKey⟩ := leads_liftM_bind_ok_iff.1 behindCert
    obtain ⟨entered, entry, _, rfl, hentered, behindEntry⟩ := leads_bind_ok_iff.1 behindKey
    obtain ⟨text, htext, behindText⟩ := leads_liftM_bind_ok_iff.1 behindEntry
    cases hkubeconfig : Utf8.decode text with
    | error malformed =>
      rw [hkubeconfig] at behindText
      cases behindText
    | ok kubeconfig =>
      rw [hkubeconfig] at behindText
      obtain ⟨_, _, _, rfl, hpure, decoded⟩ := leads_bind_ok_iff.1 behindText
      cases hpure
      obtain ⟨_, address, _, rfl, haccess, behindAccess⟩ := leads_bind_ok_iff.1 decoded
      obtain rfl := leads_access_ok_iff.1 haccess
      obtain ⟨looked, pods, _, rfl, hlooked, hend⟩ := leads_bind_ok_iff.1 behindAccess
      cases first : pods.head?.bind (·.metadata.name) with
      | none =>
        rw [first] at hend
        cases hend
      | some pod =>
        rw [first] at hend
        cases hend
        simp only [List.nil_append, List.append_nil, List.singleton_append]
        exact .intro (leads_ask_ok_iff.1 hcertified) hcert hkey (leads_ask_ok_iff.1 hentered)
          htext hkubeconfig (leads_ask_ok_iff.1 hlooked) first
  · rintro ⟨hcertified, hcert, hkey, hentered, htext, hkubeconfig, hlooked, first⟩
    refine leads_bind_ok_iff.2 ⟨_, _, _, rfl, leads_ask_ok_iff.2 hcertified, ?_⟩
    refine leads_liftM_bind_ok_iff.2 ⟨_, hcert, leads_liftM_bind_ok_iff.2 ⟨_, hkey, ?_⟩⟩
    refine leads_bind_ok_iff.2 ⟨_, _, _, rfl, leads_ask_ok_iff.2 hentered, ?_⟩
    refine leads_liftM_bind_ok_iff.2 ⟨_, htext, ?_⟩
    rw [hkubeconfig]
    refine leads_bind_ok_iff.2 ⟨[], _, _, rfl, .rest _, ?_⟩
    refine leads_bind_ok_iff.2 ⟨[_], _, _, rfl, leads_access_ok_iff.2 rfl, ?_⟩
    refine leads_bind_ok_iff.2
      ⟨_, _, [], (List.append_nil _).symm, leads_ask_ok_iff.2 hlooked, ?_⟩
    rw [first]
    exact .rest _

/-- An event that is noted in some cases only stands in front of the rest. -/
theorem leads_noteIf_iff {b : Bool} {event : Event} {k : ExceptT Error (Dialogue Effects) α}
    {result : Except Error α} :
    (if b then do Work.call (.note event); k else k).run.Leads es (.done result) ↔
      ∃ es', es = (if b then [⟨.note event, ()⟩] else []) ++ es' ∧
        k.run.Leads es' (.done result) := by
  cases b with
  | false => simp
  | true =>
    refine leads_ask_done_iff.trans ?_
    simp only [if_true, List.singleton_append]
    exact ⟨fun ⟨_, es', hes, h⟩ ↦ ⟨es', hes, h⟩, fun ⟨es', hes, h⟩ ↦ ⟨(), es', hes, h⟩⟩

/-- The courses in which a cluster becomes a target. -/
theorem leads_resolve_iff {t : Target} :
    (resolve azureMinimum c).run.Leads es (.done (.ok (some t))) ↔
      IsResolved azureMinimum c es t := by
  unfold resolve
  dsimp only
  cases takesPart : Provider.isSkipped c.object with
  | true =>
    rw [if_pos rfl]
    constructor
    · intro h
      obtain ⟨_, _, -, hend⟩ := leads_ask_done_iff.1 h
      cases hend
    · intro h
      have := h.represents.takesPart
      rw [takesPart] at this
      cases this
  | false =>
    rw [if_neg Bool.false_ne_true]
    constructor
    · intro h
      obtain ⟨supported, release, behind⟩ := leads_liftM_bind_ok_iff.1 h
      obtain ⟨_, rfl, noted⟩ := leads_noteIf_iff.1 behind
      obtain ⟨endpoint, hendpoint, hway⟩ := leads_liftM_bind_ok_iff.1 noted
      cases endpoint with
      | none =>
        obtain ⟨_, v3, _, rfl, hv3, hend⟩ := leads_bind_ok_iff.1 hway
        cases hend
        rw [List.append_nil]
        exact .forwarded takesPart release hendpoint (leads_forwardedV3_iff.1 hv3)
      | some endpoint =>
        obtain ⟨_, tls, _, rfl, htls, hend⟩ := leads_bind_ok_iff.1 hway
        cases hend
        rw [List.append_nil]
        exact .labelled takesPart release hendpoint (leads_labelledTls_iff.1 htls)
    · intro h
      cases h with
      | labelled _ release hendpoint htls =>
        refine leads_liftM_bind_ok_iff.2 ⟨_, release, leads_noteIf_iff.2 ⟨_, rfl, ?_⟩⟩
        refine leads_liftM_bind_ok_iff.2 ⟨_, hendpoint, ?_⟩
        exact leads_bind_ok_iff.2
          ⟨_, _, [], (List.append_nil _).symm, leads_labelledTls_iff.2 htls, .rest _⟩
      | forwarded _ release hinside hv3 =>
        refine leads_liftM_bind_ok_iff.2 ⟨_, release, leads_noteIf_iff.2 ⟨_, rfl, ?_⟩⟩
        refine leads_liftM_bind_ok_iff.2 ⟨_, hinside, ?_⟩
        exact leads_bind_ok_iff.2
          ⟨_, _, [], (List.append_nil _).symm, leads_forwardedV3_iff.2 hv3, .rest _⟩

end

/-! ### Whom a lookup is about -/

/-- After the exchanges, the request is about the cluster: it notes something of it, asks for a
secret of its own, or follows the kubeconfig that was in one. -/
inductive IsAbout (c : Candidate) (earlier : List (Exchange Effects)) : Effect → Prop
  | note {event : Event} (own : event ∈ [.optedOut c.object.name, .releaseTooOld c.object.name]) :
      IsAbout c earlier (.note event)
  | certificates {sent : ApiRequest} (own : certificateRequest c.object.name = .ok sent) :
      IsAbout c earlier (.api .management sent)
  | secret {suffix : String} {sent : ApiRequest} (known : suffix ∈ ["-etcd", "-kubeconfig"])
      (own : secretRequest c.object.name c.namespaceName suffix = .ok sent) :
      IsAbout c earlier (.api .management sent)
  | access {es : List (Exchange Effects)} {entry : Secret} {text : Bytes} {kubeconfig : String}
      (own : IsFetched .management (secretRequest c.object.name c.namespaceName "-kubeconfig")
        Secret.decode es entry) (found : es ⊆ earlier)
      (htext : entry.value "value" = .ok text) (hkubeconfig : Utf8.decode text = .ok kubeconfig) :
      IsAbout c earlier (.access kubeconfig)
  | pods {kubeconfig : String} {address : Uri} {sent : ApiRequest}
      (found : ⟨.access kubeconfig, .ok address⟩ ∈ earlier) (own : podRequest = .ok sent) :
      IsAbout c earlier (.api (.workload address) sent)

theorem IsAbout.isLookup {c : Candidate} {earlier : List (Exchange Effects)} {request : Effect}
    (h : IsAbout c earlier request) : request.IsLookup := by
  cases h <;> trivial

/-- Allows the requests that are about a cluster, whatever was answered. -/
def about (c : Candidate) : Monitor Effects (List (Exchange Effects)) where
  after earlier e := earlier ++ [e]
  fits _ _ := True
  may earlier request := IsAbout c earlier request

section

variable {α : Type} {c : Candidate} {earlier : List (Exchange Effects)}

theorem foldl_after_about (es earlier : List (Exchange Effects)) :
    es.foldl (about c).after earlier = earlier ++ es := by
  induction es generalizing earlier with
  | nil => exact (List.append_nil _).symm
  | cons e es ih =>
    rw [List.foldl_cons, ih]
    exact List.append_assoc _ _ _

theorem ensures_ask {server : ApiServer} {request : Except KubeError ApiRequest}
    {decode : Decoder α} (may : ∀ sent, request = .ok sent → IsAbout c earlier (.api server sent)) :
    (ask server request decode).run.Ensures (about c) earlier
      (UnlessFailed fun later a ↦ ∃ es, IsFetched server request decode es a ∧
        later = earlier ++ es) := by
  cases request with
  | error e => exact .failed
  | ok sent =>
    refine .ask (may sent rfl) fun answer _ ↦ ?_
    cases answer with
    | error text => exact .failed
    | ok response =>
      change (Dialogue.done ((response.decode decode).mapError Error.kube)).Ensures _ _ _
      cases held : response.decode decode with
      | error e => exact .failed
      | ok a => exact .done ⟨_, .intro rfl held, rfl⟩

theorem ensures_liftM (x : Except Error α) :
    (liftM x : ExceptT Error (Dialogue Effects) α).run.Ensures (about c) earlier
      (UnlessFailed fun later a ↦ later = earlier ∧ x = .ok a) :=
  .of_except fun _ h ↦ ⟨rfl, h⟩

theorem ensures_labelledTls :
    (labelledTls c.object.name).run.Ensures (about c) earlier (UnlessFailed fun _ _ ↦ True) := by
  refine (ensures_ask fun _ own ↦ .certificates own).bind_exceptT _ fun _ found _ ↦ ?_
  split
  · exact (ensures_liftM _).bind_exceptT _ fun _ ca _ ↦ (ensures_liftM _).bind_exceptT _
      fun _ cert _ ↦ (ensures_liftM _).bind_exceptT _ fun _ key _ ↦ .done trivial
  · exact .failed

theorem ensures_forwardedV3 :
    (forwardedV3 c.object.name c.namespaceName).run.Ensures (about c) earlier
      (UnlessFailed fun _ _ ↦ True) := by
  refine (ensures_ask fun _ own ↦ .secret (.head _) own).bind_exceptT _ fun _ certificates _ ↦
    (ensures_liftM _).bind_exceptT _ fun _ cert _ ↦
    (ensures_liftM _).bind_exceptT _ fun _ key _ ↦
    (ensures_ask fun _ own ↦ .secret (.tail _ (.head _)) own).bind_exceptT _
      fun later entry hentered ↦ ?_
  obtain ⟨entered, own, rfl⟩ := hentered
  refine (ensures_liftM _).bind_exceptT _ fun later text hread ↦ ?_
  obtain ⟨rfl, htext⟩ := hread
  cases hkubeconfig : Utf8.decode text with
  | error malformed => exact .failed
  | ok kubeconfig =>
    refine .ask (.access own (List.subset_append_right _ _) htext hkubeconfig) fun answer _ ↦ ?_
    cases answer with
    | error e => exact .failed
    | ok address =>
      have found {es : List (Exchange Effects)} : (⟨.access kubeconfig, .ok address⟩ :
          Exchange Effects) ∈ es ++ [⟨.access kubeconfig, .ok address⟩] :=
        List.mem_append_right _ (.head _)
      refine (ensures_ask fun _ own ↦ .pods found own).bind_exceptT _ fun _ pods _ ↦ ?_
      cases pods.head?.bind (·.metadata.name) with
      | none => exact .failed
      | some pod => exact .done trivial

/-- An event of the cluster may be noted. -/
theorem ensures_noteIf {b : Bool} {event : Event} {k : ExceptT Error (Dialogue Effects) α}
    {post : List (Exchange Effects) → Except Error α → Prop}
    (own : event ∈ [.optedOut c.object.name, .releaseTooOld c.object.name])
    (h : ∀ later, k.run.Ensures (about c) later post) :
    (if b then do Work.call (.note event); k else k).run.Ensures (about c) earlier post := by
  split
  · exact .ask (.note own) fun _ _ ↦ h _
  · exact h _

theorem ensures_resolve (azureMinimum : Version) (c : Candidate) :
    (resolve azureMinimum c).run.Ensures (about c) [] (UnlessFailed fun _ _ ↦ True) := by
  unfold resolve
  dsimp only
  split
  case isTrue => exact .ask (.note (.head _)) fun _ _ ↦ .done trivial
  case isFalse =>
    refine (ensures_liftM _).bind_exceptT _ fun _ supported _ ↦
      ensures_noteIf (.tail _ (.head _)) fun _ ↦
      (ensures_liftM (c.provider.endpoint c.object)).bind_exceptT _ fun _ endpoint _ ↦ ?_
    cases endpoint with
    | none => exact ensures_forwardedV3.bind_exceptT _ fun _ v3 _ ↦ .done trivial
    | some endpoint => exact ensures_labelledTls.bind_exceptT _ fun _ tls _ ↦ .done trivial

end

section

variable {azureMinimum : Version} {c : Candidate} {es es' : List (Exchange Effects)}
  {result result' : Except Error (Option Target)}

/-- Whatever comes of it, looking into a cluster makes no requests but those about it. -/
theorem isAbout_of_leads {before after : List (Exchange Effects)} {e : Exchange Effects}
    {rest : Work (Except Error (Option Target))}
    (course : (resolve azureMinimum c).run.Leads (before ++ e :: after) rest) :
    IsAbout c before e.request := by
  have fits : (about c).AllFit [] (before ++ e :: after) :=
    Monitor.allFit_of_forall fun _ _ _ ↦ trivial
  have may := ((ensures_resolve azureMinimum c).of_leads course fits).1
  have own := (Monitor.allMay_append.1 may).2.1
  rwa [foldl_after_about] at own

theorem only_resolve (azureMinimum : Version) (c : Candidate) :
    (resolve azureMinimum c).run.Only Effect.IsLookup :=
  (ensures_resolve azureMinimum c).only (fun _ _ ↦ trivial) fun _ _ ↦ IsAbout.isLookup

/-- What comes of a cluster depends on the answers alone. -/
theorem result_eq_of_replies (course : (resolve azureMinimum c).run.Leads es (.done result))
    (course' : (resolve azureMinimum c).run.Leads es' (.done result'))
    (same : Work.replies es = Work.replies es') : result = result' := by
  have first := Work.replay_of_leads (only_resolve azureMinimum c) course
  have second := Work.replay_of_leads (only_resolve azureMinimum c) course'
  rw [same, second] at first
  exact (Option.some.inj first).symm

end

end Discovery

end EtcdBackup
