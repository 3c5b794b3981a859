import EtcdBackup.Archive.Gzip
import EtcdBackup.Archive.Tar
import EtcdBackup.Machine
import EtcdBackup.Path

/-!
# Packing backups

A file or a directory is packed into a compressed archive with one entry at the top, named like
the file or directory.
-/

set_option autoImplicit false
set_option relaxedAutoImplicit false

namespace EtcdBackup.Archive

/-- The compressed archive of a file or directory under a name. -/
def pack (name : String) (tree : FileTree) : Bytes :=
  Gzip.write (Tar.write (Tar.entriesOf name tree))

/-- The entries of a compressed archive, unless it is damaged. -/
def unpack? (archive : Bytes) : Option (List Tar.Entry) := (Gzip.read? archive).bind Tar.read?

/-- Packs what is at a path into a new file; that file is there even if packing fails. -/
def packFile (source archive : String) : MachineJob (Except Error Unit) := do
  match Path.fileName? source with
  | none => pure (.error (.io (.noFileName source)))
  | some name =>
    match ← MachineJob.call (.write archive []) with
    | .error e => pure (.error (.io e))
    | .ok () =>
      match ← MachineJob.call (.tree source) with
      | .error .notFound => pure (.error (.io (.nothingToPack source)))
      | .error e => pure (.error (.io e))
      | .ok tree =>
        let written ← MachineJob.call (.write archive (pack name tree))
        pure (written.mapError .io)

end EtcdBackup.Archive
