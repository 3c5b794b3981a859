import EtcdBackup.Datastore
import EtcdBackup.Pattern.Fault
import EtcdBackup.Semver
import EtcdBackup.Text.Utf8
import EtcdBackup.Uri

/-!
# Errors

Everything that can go wrong in a backup, as causes. `Error.message` words a cause, `Error.kind`
names its class, and `Error.isConflict` and `Error.isNotFound` are the two distinctions that
change what the operator does next. A cause `reported` carries the words of a collaborator.
-/

set_option autoImplicit false
set_option relaxedAutoImplicit false

namespace EtcdBackup

/-- The refusal of a request by the API server. -/
structure ApiError where
  status : String
  message : String
  reason : String
  code : UInt16
  deriving DecidableEq, Inhabited

/-- The wording of a refusal. -/
def ApiError.text (e : ApiError) : String :=
  s!"ApiError: {e.message}: {e.reason} (ErrorResponse \x7b status: {Text.debug e.status}, "
    ++ s!"message: {Text.debug e.message}, reason: {Text.debug e.reason}, "
    ++ s!"code: {e.code.toNat} \x7d)"

/-- Why a request could not be put together. -/
inductive RequestFault
  | emptyName
  | invalidUri (fault : Uri.Fault)
  deriving DecidableEq

/-- The wording of a request that could not be put together. -/
def RequestFault.message : RequestFault → String
  | .emptyName => "failed to validate request: A non-empty name is required"
  | .invalidUri fault => s!"failed to build request: {fault.message}"

/-- Why talking to the API server failed. -/
inductive KubeError
  /-- The server refused. -/
  | api (response : ApiError)
  /-- The connection broke. -/
  | service (text : String)
  /-- The answer did not have the wanted form. -/
  | response (detail : String)
  /-- There was no valid request to send. -/
  | request (fault : RequestFault)
  /-- There was no client to send it with. -/
  | client (text : String)
  deriving DecidableEq

/-- The wording of a failure to talk to the API server. -/
def KubeError.message : KubeError → String
  | .api e => e.text
  | .service text => s!"ServiceError: {text}"
  | .response detail => s!"Error deserializing response: {detail}"
  | .request fault => s!"Failed to build request: {fault.message}"
  | .client text => text

/-- Why a write was refused as stale. -/
inductive Conflict
  /-- The record changed between the read and the write of it. -/
  | modified (name : String)
  /-- The status is not the one the pass started from. -/
  | statusMoved (name : String)
  | reported (text : String)
  deriving DecidableEq

/-- The wording of a stale write. -/
def Conflict.message : Conflict → String
  | .modified name => s!"{name} was modified concurrently"
  | .statusMoved name => s!"status of {name} changed since this pass read it"
  | .reported text => text

/-- The field of a request that holds a pattern. -/
inductive PatternField
  | included
  | excluded
  deriving DecidableEq

/-- The name of a field on the wire. -/
def PatternField.name : PatternField → String
  | .included => "clustersRegex"
  | .excluded => "clustersToExcludeRegex"

/-- What is wrong with settings or with a request. -/
inductive Invalid
  | noInstallation
  | noBucket
  | noRegion
  | noAttempts
  | noDatastore
  | azureMinimum (text : String) (fault : Version.Fault)
  | pattern (field : PatternField) (text : String) (fault : Pattern.Fault)
  | reported (text : String)
  deriving DecidableEq

/-- The wording of what is wrong with settings or with a request. -/
def Invalid.message : Invalid → String
  | .noInstallation => "installation name must not be empty"
  | .noBucket => "S3 bucket must not be empty"
  | .noRegion => "S3 region must not be empty"
  | .noAttempts => "max attempts must be at least 1"
  | .noDatastore => "either etcd v2 data dir or etcd v3 endpoints with TLS material must be set"
  | .azureMinimum text fault =>
    s!"invalid azure minimum version {Text.debug text}: {fault.message}"
  | .pattern field text fault => s!"invalid {field.name} {Text.debug text}: {fault.message}"
  | .reported text => text

/-- Why a tenant cluster could not be resolved. -/
inductive DiscoveryFault
  | releaseMissing (cluster : String)
  | releaseInvalid (text : String) (fault : Version.Fault)
  | clusterDomainMissing (cluster : String)
  | etcdDomainMissing (provider cluster : String)
  | secretCount (selector : String) (count : Nat)
  | secretKeyMissing (secret key : String)
  | kubeconfigEncoding (cluster : String) (malformed : Utf8.Malformed)
  | kubeconfigUnreadable (detail : String)
  | kubeconfigUnusable (detail : String)
  | noEtcdPods (cluster : String)
  | reported (text : String)
  deriving DecidableEq

/-- The wording of a cluster that could not be resolved. -/
def DiscoveryFault.message : DiscoveryFault → String
  | .releaseMissing cluster => s!"failed to get cluster version from AzureConfig {cluster}"
  | .releaseInvalid text fault =>
    s!"invalid release version {Text.debug text}: {fault.message}"
  | .clusterDomainMissing cluster =>
    s!"awscluster {cluster} does not have any cluster domain set in spec.cluster.dns.domain"
  | .etcdDomainMissing provider cluster =>
    s!"{provider} cluster {cluster} does not have an etcd domain set in spec.cluster.etcd.domain"
  | .secretCount selector count =>
    s!"expected exactly 1 secret matching {selector}, got {count}"
  | .secretKeyMissing secret key => s!"secret {secret} missing key {key}"
  | .kubeconfigEncoding cluster malformed =>
    s!"kubeconfig for {cluster} is not UTF-8: {malformed.message}"
  | .kubeconfigUnreadable detail => s!"failed to parse kubeconfig: {detail}"
  | .kubeconfigUnusable detail => s!"failed to load kubeconfig: {detail}"
  | .noEtcdPods cluster => s!"no etcd pods found in cluster {cluster}"
  | .reported text => text

/-- Why an etcd server could not be asked, or what it answered. -/
inductive EtcdFault
  | noEndpoints
  | tlsWithoutHttps
  | invalidUri (fault : Uri.Fault)
  | transport
  | call (status : String) (text : String)
  deriving DecidableEq

/-- The wording of a failed call to an etcd server. -/
def EtcdFault.message : EtcdFault → String
  | .noEndpoints => "invalid arguments: empty endpoints"
  | .tlsWithoutHttps => "invalid arguments: TLS options are only supported with HTTPS URLs"
  | .invalidUri fault => s!"invalid uri: {fault.message}"
  | .transport => "transport error: transport error"
  | .call status text =>
    s!"grpc request error: status: {status}, message: {Text.debug text}"

/-- Why an upload failed. -/
inductive StorageFault
  | noFileName (path : String)
  | uploadFailed (key bucket detail : String)
  | reported (text : String)
  deriving DecidableEq

/-- The wording of a failed upload. -/
def StorageFault.message : StorageFault → String
  | .noFileName path => s!"{path} has no file name"
  | .uploadFailed key bucket detail => s!"upload of {key} to {bucket} failed: {detail}"
  | .reported text => text

/-- Why sealing or opening a file failed. -/
inductive EncryptionFault
  | nothingToSeal
  | notSealed
  | notOpened
  | wrongExtension (path : String)
  | reported (text : String)
  deriving DecidableEq

/-- The wording of a failure to seal or open a file. -/
def EncryptionFault.message : EncryptionFault → String
  | .nothingToSeal => "no snapshot has been created"
  | .notSealed => "not an encrypted backup"
  | .notOpened => "decryption failed: wrong passphrase or corrupted file"
  | .wrongExtension path => s!"{path} does not end in .enc"
  | .reported text => text

/-- Why a file or a process could not be used. -/
inductive IoFault
  | notFound
  | permissionDenied
  | notADirectory
  | isADirectory
  | nameTooLong
  | nulInPath
  /-- The file that was to be packed is missing. -/
  | nothingToPack (path : String)
  | noFileName (path : String)
  | workspaceRemoved
  | commandFailed (code : Nat) (stderr : String)
  | noHeader
  | reported (text : String)
  deriving DecidableEq

/-- The wording of an unusable file or process. -/
def IoFault.message : IoFault → String
  | .notFound => "No such file or directory (os error 2)"
  | .permissionDenied => "Permission denied (os error 13)"
  | .notADirectory => "Not a directory (os error 20)"
  | .isADirectory => "Is a directory (os error 21)"
  | .nameTooLong => "File name too long (os error 36)"
  | .nulInPath => "file name contained an unexpected NUL byte"
  | .nothingToPack path =>
    s!"No such file or directory (os error 2) when getting metadata for {path}"
  | .noFileName path => s!"cannot archive {path}: no file name"
  | .workspaceRemoved => "backup workspace already removed"
  | .commandFailed code stderr => s!"etcdctl backup exited with exit status: {code}: {stderr}"
  | .noHeader => "etcd status carried no header"
  | .reported text => text

/-- A step of making a backup. -/
inductive Stage
  | creation
  | encryption
  | upload
  deriving DecidableEq, Repr

/-- The name of a step. -/
def Stage.name : Stage → String
  | .creation => "creation"
  | .encryption => "encryption"
  | .upload => "upload"

/-- What can go wrong in a backup. -/
inductive Error
  | kube (cause : KubeError)
  | conflict (cause : Conflict)
  | validation (cause : Invalid)
  /-- No provider's clusters could be listed. -/
  | noProviderReachable
  | discovery (cause : DiscoveryFault)
  /-- A step of a backup failed, for the reason given by `cause`. -/
  | backup (version stage cause : String)
  | etcd (cause : EtcdFault)
  | storage (cause : StorageFault)
  | encryption (cause : EncryptionFault)
  | io (cause : IoFault)
  | serialization (text : String)
  deriving DecidableEq

namespace Error

instance : Inhabited Error := ⟨.noProviderReachable⟩

/-- The wording of an error. -/
def message : Error → String
  | .kube e => "kubernetes error: " ++ e.message
  | .conflict e => "conflict: " ++ e.message
  | .validation e => "validation error: " ++ e.message
  | .noProviderReachable => "unable to get tenant clusters: no provider could be listed"
  | .discovery e => "discovery error: " ++ e.message
  | .backup version stage cause => s!"Etcd {version} {stage} failed: {cause}"
  | .etcd e => "etcd error: " ++ e.message
  | .storage e => "storage error: " ++ e.message
  | .encryption e => "encryption error: " ++ e.message
  | .io e => "io error: " ++ e.message
  | .serialization text => "serialization error: " ++ text

/-- The class of an error. -/
def kind : Error → String
  | .kube _ => "Kube"
  | .conflict _ => "Conflict"
  | .validation _ => "Validation"
  | .noProviderReachable => "NoProviderReachable"
  | .discovery _ => "Discovery"
  | .backup .. => "Backup"
  | .etcd _ => "Etcd"
  | .storage _ => "Storage"
  | .encryption _ => "Encryption"
  | .io _ => "Io"
  | .serialization _ => "Serialization"

/-- Whether a write was refused as stale; the pass is then started anew at once. -/
def isConflict : Error → Bool
  | .conflict _ => true
  | .kube (.api e) => e.code = 409
  | _ => false

/-- Whether the API server has no such object or resource. -/
def isNotFound : Error → Bool
  | .kube (.api e) => e.code = 404
  | _ => false

/-- The failure of a step of a backup. -/
def ofStage (version : Datastore) (stage : Stage) (cause : Error) : Error :=
  .backup version.tag stage.name cause.message

end Error

end EtcdBackup
