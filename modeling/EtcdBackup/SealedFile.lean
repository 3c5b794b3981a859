import EtcdBackup.Backup.Outcome
import EtcdBackup.Machine
import EtcdBackup.Sealed

/-!
# Sealing and opening files

The sealed form of a file stands beside it, with `.enc` behind its name. Opening a sealed file
writes the file without that ending; nothing is written unless everything before succeeded.
-/

set_option autoImplicit false
set_option relaxedAutoImplicit false

namespace EtcdBackup.SealedFile

/-- Seals bytes with a fresh salt and a fresh nonce. -/
def sealFresh (passphrase : String) (plain : Bytes) : MachineJob Bytes := do
  let salt ← MachineJob.call (.randomBytes Sealed.saltLength)
  let nonce ← MachineJob.call (.randomBytes Sealed.nonceLength)
  pure (Sealed.pack passphrase salt nonce plain)

/-- Seals a file into one beside it; the path of that. -/
def create (path passphrase : String) : MachineJob (Except Error String) := do
  match ← MachineJob.call (.read path) with
  | .error e => pure (.error (.io e))
  | .ok plain => do
    let content ← sealFresh passphrase plain
    let target := Backup.sealedPath path
    match ← MachineJob.call (.write target content) with
    | .error e => pure (.error (.io e))
    | .ok () => pure (.ok target)

/-- The path without the ending of sealed files. -/
def plainPath? (path : String) : Option String :=
  match Text.dropTail? ("." ++ Backup.sealedExtension).toList path.toList with
  | some (c :: rest) => some (String.ofList (c :: rest))
  | _ => none

/-- Opens a sealed file into one beside it; the path of that. -/
def openBeside (path passphrase : String) : MachineJob (Except Error String) := do
  match plainPath? path with
  | none => pure (.error (.encryption (.wrongExtension path)))
  | some target =>
    match ← MachineJob.call (.read path) with
    | .error e => pure (.error (.io e))
    | .ok data =>
      match Sealed.unpack passphrase data with
      | .error e => pure (.error (.encryption e))
      | .ok plain =>
        match ← MachineJob.call (.write target plain) with
        | .error e => pure (.error (.io e))
        | .ok () => pure (.ok target)

/-- Opens a sealed file at a path as the system has it, in bytes. A path that is no text does not
have the ending of sealed files. -/
def openRaw (path : Bytes) (passphrase : String) : MachineJob (Except Error String) :=
  match Utf8.decode path with
  | .error _ => pure (.error (.encryption (.wrongExtension (Utf8.lossy path))))
  | .ok path => openBeside path passphrase

end EtcdBackup.SealedFile
