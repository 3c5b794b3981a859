import EtcdBackup.Dialogue
import EtcdBackup.Error
import EtcdBackup.Metrics
import EtcdBackup.Record.Basic
import EtcdBackup.Target

/-!
# What the operator asks of its surroundings

The requests that the work on a backup request is made of: reading the clocks, the store of
requests, the tenant clusters, the makers of backups and the upload. Only `Call.updateStatus` and
`Call.delete` change the store.
-/

set_option autoImplicit false
set_option relaxedAutoImplicit false

namespace EtcdBackup

/-- A maker of one backup, which keeps its files to itself. -/
structure Backupper where
  id : Nat
  /-- The datastore version that it is for. -/
  version : Datastore
  deriving DecidableEq, Inhabited

/-- A request to the surroundings. -/
inductive Call
  /-- The time. -/
  | now
  /-- The reading of a clock that never goes back. -/
  | stopwatch
  | sleep (d : Duration)
  | get (name : String)
  | list
  /-- Writes the status of a record as it was read, unless it changed since. -/
  | updateStatus (record : Record)
  /-- Deletes a record; a missing one counts as deleted. -/
  | delete (name : String)
  /-- The tenant clusters. -/
  | discover
  /-- A fresh maker of backups for a target. -/
  | openBackupper (target : Target) (version : Datastore)
  /-- Takes and packs a snapshot; the path of the artifact. -/
  | create (b : Backupper)
  /-- Seals the artifact; the path of the file to upload. -/
  | encrypt (b : Backupper)
  /-- Stores a file under its name; its size. -/
  | upload (path : String)
  /-- Removes all temporary files. -/
  | cleanup (b : Backupper)
  /-- Adds to the metrics. -/
  | measure (x : Measurement)

/-- The type of the answer to a request. -/
@[reducible] def Call.Answer : Call → Type
  | .now => Instant
  | .stopwatch => Duration
  | .sleep _ => Unit
  | .get _ => Except Error Record
  | .list => Except Error (List Record)
  | .updateStatus _ => Except Error Unit
  | .delete _ => Except Error Unit
  | .discover => Except Error (List Target)
  | .openBackupper _ _ => Except Error Backupper
  | .create _ => Except Error String
  | .encrypt _ => Except Error String
  | .upload _ => Except Error UInt64
  | .cleanup _ => Except Error Unit
  | .measure _ => Unit

/-- The requests of the operator. -/
@[reducible] def Calls : Signature := ⟨Call, Call.Answer⟩

/-- A computation that makes the operator's requests. -/
abbrev Job (α : Type) : Type := Dialogue Calls α

/-- Makes one request. -/
def Job.call (c : Call) : Job c.Answer := Dialogue.ask c .done

/-- A computation that may fail, with the requests it makes. -/
abbrev FailingJob (α : Type) : Type := ExceptT Error (Dialogue Calls) α

/-- Makes one request whose failure ends the computation. -/
def FailingJob.call {α : Type} (j : Job (Except Error α)) : FailingJob α := j

end EtcdBackup
