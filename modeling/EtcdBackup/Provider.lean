import EtcdBackup.Error
import EtcdBackup.Record.Codec

/-!
# Infrastructure providers

Each provider represents tenant clusters by a resource of its own. A `ProviderObject` is one such
resource as it was listed; the functions here read off it whether the cluster takes part in
backups, whether its release supports them, and where its etcd is reached. What a member of the
object should be is not checked: a value of another type counts as absent.
-/

set_option autoImplicit false
set_option relaxedAutoImplicit false

namespace EtcdBackup

/-- An infrastructure provider. -/
inductive Provider
  | aws
  | azure
  | kvm
  | capi
  deriving DecidableEq, Repr, Inhabited

/-- A type of resource at the API server. -/
structure ApiResource where
  group : String
  version : String
  kind : String
  plural : String
  deriving DecidableEq, Repr

/-- The group and the version together. -/
def ApiResource.apiVersion (r : ApiResource) : String := r.group ++ "/" ++ r.version

/-- An object that represents a tenant cluster. -/
structure ProviderObject where
  metadata : Metadata := {}
  /-- The object without its metadata. -/
  data : Json := .null

namespace ProviderObject

/-- The name of the cluster. -/
def name (o : ProviderObject) : String := o.metadata.name.getD ""

/-- The text reached through nested objects, empty where there is none. -/
def textAt (o : ProviderObject) (keys : List String) : String :=
  ((o.data.path keys).asString?).getD ""

/-- Whether the truth value reached through nested objects is there and true. -/
def holdsAt (o : ProviderObject) (keys : List String) : Bool :=
  (o.data.path keys).asBool? = some true

/-- Reads an object. -/
def decode : Decoder ProviderObject := fun j ↦
  let fields := (Fields.start fun metadata ↦ (⟨metadata, j⟩ : ProviderObject))
    |>.default "metadata" Metadata.decode {}
  fields.decodeObject "struct DynamicObject" j

end ProviderObject

/-- The annotation that keeps a cluster out of backups. -/
def skipAnnotation : String := "giantswarm.io/etcd-backup-operator-skip-backup"

/-- The label with the version of the platform's release. -/
def releaseLabel : String := "release.giantswarm.io/version"

/-- Whether a release is at least the minimum; an empty text stands for the version `absent`, and
the letter v in front of a version does not count. -/
def Version.isSupported (text : String) (absent minimum : Version) : Except Error Bool :=
  if text.isEmpty then .ok (absent.atLeast minimum)
  else
    match Version.parse (Version.withoutMark text) with
    | .ok v => .ok (v.atLeast minimum)
    | .error e => .error (.discovery (.releaseInvalid text e))

namespace Provider

/-- All providers, in the order of their listing. -/
def all : List Provider := [.aws, .azure, .kvm, .capi]

/-- The short name of a provider. -/
def tag : Provider → String
  | .aws => "aws"
  | .azure => "azure"
  | .kvm => "kvm"
  | .capi => "capi"

/-- The resource that represents clusters of a provider. -/
def resource : Provider → ApiResource
  | .aws => ⟨"infrastructure.giantswarm.io", "v1alpha3", "AWSCluster", "awsclusters"⟩
  | .azure => ⟨"provider.giantswarm.io", "v1alpha1", "AzureConfig", "azureconfigs"⟩
  | .kvm => ⟨"provider.giantswarm.io", "v1alpha1", "KVMConfig", "kvmconfigs"⟩
  | .capi => ⟨"cluster.x-k8s.io", "v1beta2", "Cluster", "clusters"⟩

/-- Whether client certificates are in a labelled secret of the management cluster. -/
def usesLabelledSecret : Provider → Bool
  | .capi => false
  | _ => true

/-- Whether a cluster is looked at at all: it is not being deleted, and one managed through the
Cluster API is set up. -/
def isCandidate (p : Provider) (o : ProviderObject) : Bool :=
  o.metadata.deletionTimestamp.isNone &&
    (p ≠ .capi ||
      o.holdsAt ["status", "initialization", "controlPlaneInitialized"] &&
        o.holdsAt ["status", "initialization", "infrastructureProvisioned"])

/-- Whether a cluster is kept out of backups by its annotation. -/
def isSkipped (o : ProviderObject) : Bool :=
  (o.metadata.annotations.bind (·.get? skipAnnotation)) = some "true"

/-- The text of the release of an Azure cluster: that of its bundle, or else its label's. -/
def azureRelease (o : ProviderObject) : String :=
  let bundle := o.textAt ["spec", "versionBundle", "version"]
  if bundle.isEmpty then (o.metadata.labels.bind (·.get? releaseLabel)).getD "" else bundle

/-- Whether the release of a cluster supports backups. -/
def supportsBackup (p : Provider) (o : ProviderObject) (azureMinimum : Version) :
    Except Error Bool :=
  match p with
  | .azure =>
    let release := azureRelease o
    if release.isEmpty then .error (.discovery (.releaseMissing o.name))
    else Version.isSupported release ⟨0, 0, 0, [], []⟩ azureMinimum
  | _ => .ok true

/-- The endpoint of a cluster as far as its object tells; none for the Cluster API. -/
def endpoint (p : Provider) (o : ProviderObject) : Except Error (Option String) :=
  match p with
  | .aws =>
    let domain := o.textAt ["spec", "cluster", "dns", "domain"]
    if domain.isEmpty then .error (.discovery (.clusterDomainMissing o.name))
    else .ok (some s!"https://etcd.{o.name}.k8s.{domain}:2379")
  | .azure => etcdDomain ":2379"
  | .kvm => etcdDomain ":443"
  | .capi => .ok none
where
  etcdDomain (port : String) : Except Error (Option String) :=
    let domain := o.textAt ["spec", "cluster", "etcd", "domain"]
    if domain.isEmpty then .error (.discovery (.etcdDomainMissing p.tag o.name))
    else .ok (some ("https://" ++ domain ++ port))

end Provider

end EtcdBackup
