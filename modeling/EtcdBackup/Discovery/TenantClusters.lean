import EtcdBackup.Effect
import EtcdBackup.Kubernetes.Secret

/-!
# Looking up tenant clusters

Every provider's clusters are listed at the management cluster's API server, and each is turned
into a backup target with what its secrets hold. A provider whose list fails is passed over, unless
all of them fail, and a cluster that cannot be resolved is left out; neither has any influence on
the others.
-/

set_option autoImplicit false
set_option relaxedAutoImplicit false

namespace EtcdBackup.Discovery

/-- A listed cluster that is looked at. -/
structure Candidate where
  provider : Provider
  object : ProviderObject

/-- The clusters of a provider, as listed. -/
def listed (p : Provider) : Work (Except KubeError (List ProviderObject)) :=
  Work.request .management (ApiRequest.list ⟨p.resource, none⟩ [])
    (ApiResponse.objects ProviderObject.decode)

/-- The clusters of a provider that are looked at; `none` if they could not be listed. -/
def candidatesOf (p : Provider) : Work (Option (List Candidate)) := do
  match ← listed p with
  | .ok objects => pure (some ((objects.filter p.isCandidate).map (Candidate.mk p)))
  | .error e =>
    let e := Error.kube e
    Work.call (.note (if e.isNotFound then .notServed p else .listingFailed p e))
    pure none

/-- The clusters of all providers that are looked at; `none` if no provider could be listed. -/
def candidates : List Provider → Work (Option (List Candidate))
  | [] => pure none
  | p :: rest => do
    let first ← candidatesOf p
    let others ← candidates rest
    pure <| match first, others with
      | none, others => others
      | first, none => first
      | some first, some others => some (first ++ others)

/-- Secrets at an API server, of all namespaces or of one. -/
def secrets (namespaceName : Option String) : ObjectPath :=
  ⟨⟨"", "v1", "Secret", "secrets"⟩, namespaceName⟩

/-- Pods in the namespace of the control plane. -/
def controlPlanePods : ObjectPath := ⟨⟨"", "v1", "Pod", "pods"⟩, some "kube-system"⟩

/-- The labels of etcd pods. -/
def etcdPodSelector : String := "component=etcd,tier=control-plane"

/-- The port of etcd inside a workload cluster. -/
def etcdPort : UInt16 := 2379

/-- The labels of the secret with the client certificates of a cluster. -/
def certificateSelector (cluster : String) : String :=
  s!"giantswarm.io/cluster={cluster},giantswarm.io/certificate=calico-etcd-client"

/-- A request to an API server whose failure ends the computation. -/
def ask {α : Type} (server : ApiServer) (request : Except KubeError ApiRequest)
    (decode : Decoder α) : ExceptT Error (Dialogue Effects) α :=
  ExceptT.mk (Except.mapError Error.kube <$> Work.request server request decode)

/-- The client certificates in the labelled secret of a cluster, of which there is one. -/
def labelledTls (cluster : String) : ExceptT Error (Dialogue Effects) TlsMaterial := do
  let selector := certificateSelector cluster
  match ← ask .management (ApiRequest.list (secrets none) [("labelSelector", selector)])
      (ApiResponse.objects Secret.decode) with
  | [secret] => do
    let ca ← secret.value "ca"
    let cert ← secret.value "crt"
    let key ← secret.value "key"
    pure { ca := ca, cert := cert, key := key }
  | found => throw (.discovery (.secretCount selector found.length))

/-- The way to a cluster of the Cluster API: a port of one of its etcd pods. -/
def forwardedV3 (cluster namespaceName : String) :
    ExceptT Error (Dialogue Effects) V3Settings := do
  let secret (suffix : String) : ExceptT Error (Dialogue Effects) Secret :=
    ask .management (ApiRequest.get (secrets (some namespaceName)) (cluster ++ suffix))
      Secret.decode
  let certificates ← secret "-etcd"
  let cert ← certificates.value "tls.crt"
  let key ← certificates.value "tls.key"
  let access ← secret "-kubeconfig"
  let kubeconfig ← match Utf8.decode (← access.value "value") with
    | .ok text => pure text
    | .error malformed => throw (.discovery (.kubeconfigEncoding cluster malformed))
  let server ← Work.access kubeconfig
  let pods ← ask (.workload server)
    (ApiRequest.list controlPlanePods [("labelSelector", etcdPodSelector)])
    (ApiResponse.objects Pod.decode)
  match (pods.head?).bind (·.metadata.name) with
  | none => throw (.discovery (.noEtcdPods cluster))
  | some pod =>
    pure
      { endpoints := s!"https://{pod}:{etcdPort.toNat}"
        tls := some { ca := cert, cert := cert, key := key, domain := some "localhost" }
        proxy := some ⟨kubeconfig, "kube-system", pod, etcdPort⟩ }

/-- The target of a cluster; `none` if it is kept out of backups. -/
def resolve (azureMinimum : Version) (c : Candidate) :
    ExceptT Error (Dialogue Effects) (Option Target) := do
  let name := c.object.name
  if Provider.isSkipped c.object then
    Work.call (.note (.optedOut name))
    pure none
  else
    let isSupported ← c.provider.supportsBackup c.object azureMinimum
    if !isSupported then Work.call (.note (.releaseTooOld name))
    let v3 ← match ← c.provider.endpoint c.object with
      | some endpoint => do
        let tls ← labelledTls name
        pure { endpoints := endpoint, tls := some tls }
      | none => forwardedV3 name (c.object.metadata.namespaceName.getD "")
    pure (some { name := name, v3 := v3, supported := isSupported })

/-- The targets of clusters, without those that are kept out or cannot be resolved. -/
def resolveAll (azureMinimum : Version) : List Candidate → Work (List Target)
  | [] => pure []
  | c :: rest => do
    let first ← (resolve azureMinimum c).run
    match first with
    | .ok (some target) => do
      let others ← resolveAll azureMinimum rest
      pure (target :: others)
    | .ok none => resolveAll azureMinimum rest
    | .error e => do
      Work.call (.note (.unresolved c.object.name c.provider e))
      resolveAll azureMinimum rest

/-- The tenant clusters as targets. -/
def tenantClusters (azureMinimum : Version) : Work (Except Error (List Target)) := do
  match ← candidates Provider.all with
  | none => pure (.error .noProviderReachable)
  | some found => do
    Work.call (.note (.found found.length))
    let targets ← resolveAll azureMinimum found
    pure (.ok targets)

end EtcdBackup.Discovery
