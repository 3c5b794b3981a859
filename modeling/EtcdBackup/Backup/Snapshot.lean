import EtcdBackup.Archive
import EtcdBackup.Backup.Workspace
import EtcdBackup.Etcd.Connection

/-!
# Taking snapshots

A snapshot of a v2 datastore is a copy of its data directory that `etcdctl` makes. One of a v3
datastore is streamed by the server, after its history was compacted and its storage defragmented.
Either is packed into the archive that is the artifact of the workspace.
-/

set_option autoImplicit false
set_option relaxedAutoImplicit false

namespace EtcdBackup.Backup

/-- The command that copies a v2 data directory. -/
def etcdctlBackup (dataDir backupDir : String) : Command :=
  ⟨"etcdctl", [("ETCDCTL_API", "2")],
    ["backup", "--data-dir", dataDir, "--backup-dir", backupDir]⟩

/-- Runs a command that has to succeed. -/
def runCommand (command : Command) : MachineJob (Except Error Unit) := do
  match ← MachineJob.call (.run command) with
  | .error e => pure (.error (.io e))
  | .ok result =>
    if result.exitCode = 0 then pure (.ok ())
    else
      let stderr := Text.trim (Utf8.lossy result.stderr)
      pure (.error (.io (.commandFailed result.exitCode stderr)))

/-- Writes a file. -/
def writeFile (path : String) (content : Bytes) : MachineJob (Except Error Unit) := do
  let written ← MachineJob.call (.write path content)
  pure (written.mapError .io)

/-- Packs a snapshot into the artifact of a workspace. -/
def packSnapshot (w : Workspace) (source archive : String) :
    ExceptT Error (Dialogue Effects) (String × Workspace) := do
  ExceptT.mk (Work.onMachine (Archive.packFile source archive))
  pure (archive, { w with artifact := some archive })

/-- Takes a snapshot of a v2 datastore; the path of the artifact. -/
def snapshotV2 (w : Workspace) (dataDir : String) :
    ExceptT Error (Dialogue Effects) (String × Workspace) := do
  let stem := w.stem (← Work.call .now)
  let directory ← w.directory?
  let copy := Path.join directory stem
  ExceptT.mk (Work.onMachine (runCommand (etcdctlBackup dataDir copy)))
  packSnapshot w copy (Path.join directory (stem ++ ".tar.gz"))

/-- A call to an etcd server whose failure ends the computation. -/
def askEtcd {α : Type} (answer : Work (Except EtcdFault α)) :
    ExceptT Error (Dialogue Effects) α :=
  ExceptT.mk (Except.mapError Error.etcd <$> answer)

/-- Compacts the history of a datastore up to now and frees the storage. -/
def compactAndDefragment (server : EtcdServer) (tls : Option TlsMaterial) :
    ExceptT Error (Dialogue Effects) Unit := do
  match ← askEtcd (Work.call (.etcd server tls .status)) with
  | none => throw (.io .noHeader)
  | some revision => do
    askEtcd (Work.call (.etcd server tls (.compact revision)))
    askEtcd (Work.call (.etcd server tls .defragment))

/-- Writes the snapshot that a server streams into a file. -/
def saveSnapshot (server : EtcdServer) (tls : Option TlsMaterial) (path : String) :
    ExceptT Error (Dialogue Effects) Unit := do
  let stream ← askEtcd (Work.call (.etcd server tls .snapshot))
  ExceptT.mk (Work.onMachine (writeFile path stream.chunks.flatten))
  match stream.fault with
  | some fault => throw (.etcd fault)
  | none => pure ()

/-- Takes a snapshot of a v3 datastore; the path of the artifact. -/
def snapshotV3 (w : Workspace) (settings : V3Settings) :
    ExceptT Error (Dialogue Effects) (String × Workspace) := do
  let server ← Etcd.server settings
  compactAndDefragment server settings.tls
  let directory ← w.directory?
  let stem := w.stem (← Work.call .now)
  let database := Path.join directory (stem ++ ".db")
  saveSnapshot server settings.tls database
  packSnapshot w database (database ++ ".tar.gz")

end EtcdBackup.Backup
