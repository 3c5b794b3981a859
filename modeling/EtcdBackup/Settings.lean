import EtcdBackup.Error
import EtcdBackup.Retry
import EtcdBackup.Target

/-!
# Settings of the operator

What the operator is started with. `Settings.validate` refuses settings that it cannot work with
and names the first fault.
-/

set_option autoImplicit false
set_option relaxedAutoImplicit false

namespace EtcdBackup

/-- Where backups are stored. -/
structure S3Settings where
  bucket : String := ""
  region : String := ""
  endpoint : Option String := none
  forcePathStyle : Bool := false
  deriving DecidableEq, Inhabited

/-- How long finished requests are kept. -/
structure Retention where
  /-- For completed and failed requests, from the end of the cycle. -/
  completed : Duration := Duration.ofSeconds (7 * 24 * 60 * 60)
  /-- For skipped requests, from their creation. -/
  skipped : Duration := Duration.ofSeconds (60 * 60)
  deriving DecidableEq, Inhabited

/-- The minimum Azure release unless another is set. -/
def defaultAzureMinimum : String := "0.2.0"

/-- The settings of the operator. -/
structure Settings where
  installation : String := ""
  /-- Leave out the management cluster unless it is asked for by name. -/
  skipManagement : Bool := false
  /-- The passphrase for artifacts; an empty one leaves them unsealed. -/
  encryptionPassword : String := ""
  s3 : S3Settings := {}
  dataDir : String := ""
  v3 : V3Settings := {}
  retry : RetryPolicy := {}
  retention : Retention := {}
  azureMinimum : String := defaultAzureMinimum
  deriving DecidableEq, Inhabited

namespace Settings

/-- The management cluster as a target. -/
def management (s : Settings) : Target := Target.management s.dataDir s.v3

/-- The minimum Azure release as a version. -/
def azureVersion (s : Settings) : Except Error Version :=
  match Version.parse (Version.withoutMark s.azureMinimum) with
  | .ok v => .ok v
  | .error e => .error (.validation (.azureMinimum s.azureMinimum e))

/-- Refuses settings that the operator cannot work with. -/
def validate (s : Settings) : Except Error Unit := do
  if s.installation.isEmpty then throw (.validation .noInstallation)
  if s.s3.bucket.isEmpty then throw (.validation .noBucket)
  if s.s3.region.isEmpty then throw (.validation .noRegion)
  if s.retry.maxAttempts = 0 then throw (.validation .noAttempts)
  if ¬s.skipManagement ∧ s.dataDir.isEmpty ∧ ¬s.v3.isComplete then
    throw (.validation .noDatastore)
  let _ ← s.azureVersion
  pure ()

end Settings

end EtcdBackup
