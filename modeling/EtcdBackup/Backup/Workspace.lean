import EtcdBackup.Effect
import EtcdBackup.SealedFile

/-!
# Workspaces

A backup is made in a temporary directory of its own. The workspace knows that directory until it
is removed, and the artifact of the backup once there is one.
-/

set_option autoImplicit false
set_option relaxedAutoImplicit false

namespace EtcdBackup.Backup

/-- The place in which one backup is made. -/
structure Workspace where
  version : Datastore
  /-- What the names of artifacts begin with. -/
  namePrefix : String
  /-- The passphrase for artifacts; an empty one leaves them unsealed. -/
  passphrase : String
  /-- The temporary directory, until it is removed. -/
  directory : Option String
  artifact : Option String := none
  deriving DecidableEq, Inhabited

namespace Workspace

/-- What the names of temporary directories begin with. -/
def directoryPrefix : String := "etcd-backup-"

/-- A workspace with a fresh directory. -/
def create (version : Datastore) (namePrefix passphrase : String) :
    MachineJob (Except Error Workspace) := do
  match ← MachineJob.call (.makeTemporary directoryPrefix) with
  | .error e => pure (.error (.io e))
  | .ok directory => pure (.ok ⟨version, namePrefix, passphrase, some directory, none⟩)

/-- The temporary directory, if it is still there. -/
def directory? (w : Workspace) : Except Error String :=
  match w.directory with
  | some directory => .ok directory
  | none => .error (.io .workspaceRemoved)

/-- The name of an artifact of a time, without extensions. -/
def stem (w : Workspace) (time : Instant) : String :=
  artifactStem w.namePrefix w.version time.toMoment

/-- Seals the artifact, if there is a passphrase; the path of the file to upload. -/
def encrypt (w : Workspace) : MachineJob (Except Error (String × Workspace)) :=
  match w.artifact with
  | none => pure (.error (.encryption .nothingToSeal))
  | some artifact =>
    if w.passphrase.isEmpty then pure (.ok (artifact, w))
    else do
      match ← SealedFile.create artifact w.passphrase with
      | .error e => pure (.error e)
      | .ok path => pure (.ok (path, { w with artifact := some path }))

/-- Removes the temporary directory, if it is still there. -/
def cleanup (w : Workspace) : MachineJob (Except Error Unit × Workspace) := do
  match w.directory with
  | none => pure (.ok (), w)
  | some directory =>
    let removed ← MachineJob.call (.removeTree directory)
    pure (removed.mapError .io, { w with directory := none })

end Workspace

end EtcdBackup.Backup
