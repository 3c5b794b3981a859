import EtcdBackup.Effect
import EtcdBackup.Path

/-!
# Uploads

A file is stored in a bucket under its bare name.
-/

set_option autoImplicit false
set_option relaxedAutoImplicit false

namespace EtcdBackup.Upload

/-- The name that a file is stored under. -/
def objectKey (path : String) : Except Error String :=
  match Path.fileName? path with
  | some name => .ok name
  | none => .error (.storage (.noFileName path))

/-- Stores a file; its size in bytes. -/
def file (store : S3Settings) (path : String) : Work (Except Error UInt64) := do
  match objectKey path with
  | .error e => pure (.error e)
  | .ok key =>
    let failed (detail : String) : Error := .storage (.uploadFailed key store.bucket detail)
    match ← Work.onMachine (MachineJob.call (.read path)) with
    | .error .isADirectory => pure (.error (failed IoFault.isADirectory.message))
    | .error e => pure (.error (.io e))
    | .ok content =>
      match ← Work.call (.put store key content) with
      | .error detail => pure (.error (failed detail))
      | .ok () => pure (.ok (UInt64.ofNat content.length))

end EtcdBackup.Upload
