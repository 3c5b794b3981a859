import EtcdBackup.Datastore
import EtcdBackup.Record.Phase

/-!
# The status of a backup request

`Status` is what the operator writes back: the phase, when the cycle started and ended, an entry
per target, and why the request failed as a whole. The entry of a target holds a `SubStatus` for
each datastore version that was started, or the reason why the target could not be found.
-/

set_option autoImplicit false
set_option relaxedAutoImplicit false

namespace EtcdBackup

/-- Progress of one datastore of one target. -/
structure SubStatus where
  state : InstanceState := .pending
  /-- Runs of the backup so far. -/
  attempts : UInt32 := 0
  started : Option Instant := none
  finished : Option Instant := none
  /-- The error of the last run, empty after a success. -/
  latestError : String := ""
  creationMillis : UInt64 := 0
  encryptionMillis : UInt64 := 0
  uploadMillis : UInt64 := 0
  /-- The size of the uploaded file in bytes. -/
  size : UInt64 := 0
  filename : Option String := none
  deriving DecidableEq, Inhabited

/-- Progress of one target. -/
structure InstanceStatus where
  name : String
  /-- Why the target could not be found. -/
  error : Option String := none
  v2 : Option SubStatus := none
  v3 : Option SubStatus := none
  deriving DecidableEq, Inhabited

namespace InstanceStatus

/-- The progress of one datastore version, if it was started. -/
def sub? (s : InstanceStatus) : Datastore → Option SubStatus
  | .v2 => s.v2
  | .v3 => s.v3

/-- The progress of one datastore version, a fresh one if there is none. -/
def sub (s : InstanceStatus) (version : Datastore) : SubStatus := (s.sub? version).getD {}

/-- The entry with the progress of one datastore version replaced. -/
def withSub (s : InstanceStatus) (version : Datastore) (sub : SubStatus) : InstanceStatus :=
  match version with
  | .v2 => { s with v2 := some sub }
  | .v3 => { s with v3 := some sub }

/-- Whether a datastore version failed. -/
def hasFailure (s : InstanceStatus) : Bool :=
  [s.v2, s.v3].any fun sub ↦ sub.any (·.state = .failed)

end InstanceStatus

/-- The status of a backup request. -/
structure Status where
  phase : Phase := .empty
  started : Option Instant := none
  finished : Option Instant := none
  /-- The entries of the targets, by name. -/
  instances : Keyed InstanceStatus := ∅
  /-- Why the request failed before any target was looked at. -/
  error : Option String := none
  deriving DecidableEq, Inhabited

namespace Status

/-- The status with an entry added, or replaced. -/
def withInstance (s : Status) (entry : InstanceStatus) : Status :=
  { s with instances := s.instances.insert entry.name entry }

/-- Whether a target failed. -/
def anyFailed (s : Status) : Bool := s.instances.values.any InstanceStatus.hasFailure

/-- The entry of a target, a fresh one if there is none. -/
def entry (s : Status) (name : String) : InstanceStatus :=
  (s.instances.get? name).getD { name := name }

end Status

end EtcdBackup
