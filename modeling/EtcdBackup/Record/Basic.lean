import EtcdBackup.Record.Status

/-!
# Backup requests

A `Record` is one backup request as the API server stores it: metadata, what is asked for, and
the status the operator wrote. The resource version in the metadata changes with every write.
-/

set_option autoImplicit false
set_option relaxedAutoImplicit false

namespace EtcdBackup

/-- The metadata that the API server keeps with an object. -/
structure Metadata where
  name : Option String := none
  generateName : Option String := none
  namespaceName : Option String := none
  resourceVersion : Option String := none
  creationTimestamp : Option Instant := none
  deletionTimestamp : Option Instant := none
  labels : Option (Keyed String) := none
  annotations : Option (Keyed String) := none
  deriving DecidableEq, Inhabited

/-- The name of an object, or the stem of a name not yet given, or nothing. -/
def Metadata.anyName (m : Metadata) : String := (m.name <|> m.generateName).getD ""

/-- What a backup request asks for. -/
structure Spec where
  /-- Whether tenant clusters are included. -/
  guestBackup : Bool := false
  /-- The targets by name; an empty list asks for all. -/
  clusterNames : List String := []
  /-- The pattern that tenant clusters have to match. -/
  clustersRegex : Option String := none
  /-- The pattern that tenant clusters must not match. -/
  clustersToExcludeRegex : Option String := none
  deriving DecidableEq, Inhabited

/-- One backup request. -/
structure Record where
  metadata : Metadata := {}
  spec : Spec := {}
  status : Option Status := none
  deriving DecidableEq, Inhabited

namespace Record

/-- The name of the request. -/
def name (r : Record) : String := r.metadata.anyName

/-- The phase of the request, empty before there is a status. -/
def phase (r : Record) : Phase := (r.status.getD {}).phase

/-- When the cycle ended. -/
def finished (r : Record) : Option Instant := r.status.bind (·.finished)

/-- When the request was made. -/
def created (r : Record) : Option Instant := r.metadata.creationTimestamp

end Record

end EtcdBackup
