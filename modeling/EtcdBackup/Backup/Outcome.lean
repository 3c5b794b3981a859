import EtcdBackup.Datastore
import EtcdBackup.Time.Duration
import EtcdBackup.Time.Printer

/-!
# Backups that were made, and their names

`Outcome` holds the measurements of a successful backup. The name of an artifact joins the
installation, the cluster, the datastore version and the time of the backup with dashes.
-/

set_option autoImplicit false
set_option relaxedAutoImplicit false

namespace EtcdBackup.Backup

/-- The measurements of a successful backup. -/
structure Outcome where
  creation : Duration := .zero
  encryption : Duration := .zero
  upload : Duration := .zero
  /-- The size of the uploaded file in bytes. -/
  size : UInt64
  /-- The name of the uploaded file. -/
  filename : String
  deriving DecidableEq

/-- The installation and the cluster in artifact names. -/
def filenamePrefix (installation cluster : String) : String := installation ++ "-" ++ cluster

/-- The name of an artifact without extensions. -/
def artifactStem (namePrefix : String) (version : Datastore) (at_ : Moment) : String :=
  namePrefix ++ "-" ++ version.tag ++ "-" ++ at_.fileText

/-- The extension of sealed files, without the dot. -/
def sealedExtension : String := "enc"

/-- The path of the sealed form of a file. -/
def sealedPath (path : String) : String := path ++ "." ++ sealedExtension

end EtcdBackup.Backup
