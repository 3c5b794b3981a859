import EtcdBackup.Backup.Snapshot

/-!
# Makers of backups

A maker takes one backup of one datastore, seals it and cleans up after itself.
-/

set_option autoImplicit false
set_option relaxedAutoImplicit false

namespace EtcdBackup.Backup

/-- A maker of one backup. -/
structure Maker where
  dataDir : String
  v3 : V3Settings
  workspace : Workspace
  deriving Inhabited

namespace Maker

/-- A fresh maker for a target. -/
def create (installation passphrase : String) (target : Target) (version : Datastore) :
    Work (Except Error Maker) := do
  let namePrefix := filenamePrefix installation target.name
  match ← Work.onMachine (Workspace.create version namePrefix passphrase) with
  | .error e => pure (.error e)
  | .ok workspace => pure (.ok ⟨target.dataDir, target.v3, workspace⟩)

/-- Takes and packs the snapshot. -/
def snapshot (m : Maker) : ExceptT Error (Dialogue Effects) (String × Workspace) :=
  match m.workspace.version with
  | .v2 => snapshotV2 m.workspace m.dataDir
  | .v3 => snapshotV3 m.workspace m.v3

/-- The result of a step for the workspace; a step that fails leaves the maker as it was. -/
def keep (m : Maker) {α : Type} : Except Error (α × Workspace) → Except Error α × Maker
  | .ok (a, workspace) => (.ok a, { m with workspace := workspace })
  | .error e => (.error e, m)

/-- Takes and packs a snapshot; the path of the artifact. -/
def makeArtifact (m : Maker) : Work (Except Error String × Maker) := do
  let result ← m.snapshot.run
  pure (m.keep result)

/-- Seals the artifact; the path of the file to upload. -/
def encrypt (m : Maker) : Work (Except Error String × Maker) := do
  let result ← Work.onMachine m.workspace.encrypt
  pure (m.keep result)

/-- Removes all temporary files. -/
def cleanup (m : Maker) : Work (Except Error Unit × Maker) := do
  let (result, workspace) ← Work.onMachine m.workspace.cleanup
  pure (result, { m with workspace := workspace })

end Maker

end EtcdBackup.Backup
