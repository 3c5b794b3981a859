/-!
# Datastore versions

An etcd datastore is kept in the old v2 form or in the v3 form.
-/

set_option autoImplicit false
set_option relaxedAutoImplicit false

namespace EtcdBackup

/-- The form of a datastore. -/
inductive Datastore
  | v2
  | v3
  deriving DecidableEq, Repr, Inhabited

/-- The short name in file names and messages. -/
def Datastore.tag : Datastore → String
  | .v2 => "v2"
  | .v3 => "v3"

end EtcdBackup
