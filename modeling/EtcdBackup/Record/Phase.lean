import EtcdBackup.Json.Decode

/-!
# Phases and states

A backup request runs through phases, from being looked at for the first time to one of three
final ones, and each datastore of each target through states of its own. `Phase.rank` orders the
phases by their place in a cycle.
-/

set_option autoImplicit false
set_option relaxedAutoImplicit false

namespace EtcdBackup

/-- The phase of a backup request. -/
inductive Phase
  /-- Not looked at yet. -/
  | empty
  /-- Admitted; the cycle is about to start. -/
  | pending
  /-- The v2 datastores are being saved. -/
  | v2Running
  /-- The v2 datastores are done. -/
  | v2Completed
  /-- The v3 datastores are being saved. -/
  | v3Running
  /-- The v3 datastores are done. -/
  | v3Completed
  /-- Every target is done without a failure. -/
  | completed
  /-- A target failed, or the request cannot be run. -/
  | failed
  /-- Another request took precedence. -/
  | skipped
  deriving DecidableEq, Repr, Inhabited

namespace Phase

/-- All phases, in the order of their declaration. -/
def all : List Phase :=
  [.empty, .pending, .v2Running, .v2Completed, .v3Running, .v3Completed, .completed, .failed,
    .skipped]

/-- The name of a phase on the wire. -/
def wireName : Phase → String
  | .empty => ""
  | .pending => "Pending"
  | .v2Running => "V2BackupRunning"
  | .v2Completed => "V2BackupCompleted"
  | .v3Running => "V3BackupRunning"
  | .v3Completed => "V3BackupCompleted"
  | .completed => "Completed"
  | .failed => "Failed"
  | .skipped => "Skipped"

/-- The name of a phase for people. -/
def text : Phase → String
  | .empty => "Empty"
  | phase => phase.wireName

/-- Whether the cycle is over. -/
def isTerminal : Phase → Bool
  | .completed | .failed | .skipped => true
  | _ => false

/-- The place of a phase in a cycle. -/
def rank : Phase → Nat
  | .empty => 0
  | .pending => 1
  | .v2Running => 2
  | .v2Completed => 3
  | .v3Running => 4
  | .v3Completed => 5
  | .completed | .failed | .skipped => 6

/-- The phase with a name. -/
def ofName? (name : String) : Option Phase := all.find? (·.wireName = name)

/-- The form of a phase on the wire. -/
def encode (phase : Phase) : Json := .string phase.wireName

/-- Reads a phase. -/
def decode : Decoder Phase := Decoder.variant (all.map wireName) ofName?

end Phase

/-- How far one datastore of one target is. -/
inductive InstanceState
  | pending
  | running
  | completed
  | failed
  | skipped
  deriving DecidableEq, Repr, Inhabited

namespace InstanceState

/-- All states, in the order of their declaration. -/
def all : List InstanceState := [.pending, .running, .completed, .failed, .skipped]

/-- The name of a state. -/
def text : InstanceState → String
  | .pending => "Pending"
  | .running => "Running"
  | .completed => "Completed"
  | .failed => "Failed"
  | .skipped => "Skipped"

/-- Whether the state is never left. -/
def isTerminal : InstanceState → Bool
  | .completed | .failed | .skipped => true
  | _ => false

/-- The state with a name. -/
def ofName? (name : String) : Option InstanceState := all.find? (·.text = name)

/-- The form of a state on the wire. -/
def encode (state : InstanceState) : Json := .string state.text

/-- Reads a state. -/
def decode : Decoder InstanceState := Decoder.variant (all.map text) ofName?

end InstanceState

end EtcdBackup
