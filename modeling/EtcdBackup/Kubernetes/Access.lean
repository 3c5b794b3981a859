import EtcdBackup.Error
import EtcdBackup.Uri

/-!
# Access to a workload cluster

The API server of a workload cluster is reached with a kubeconfig, a text that the management
cluster keeps in a secret. The client library reads it, and may look at files and at the environment
on the way to the server, so what it finds is an answer of the surroundings.
-/

set_option autoImplicit false
set_option relaxedAutoImplicit false

namespace EtcdBackup

/-- Why a kubeconfig leads to no server. -/
inductive AccessFault
  /-- The text does not have the form of a kubeconfig. -/
  | unreadable (detail : String)
  /-- What it says does not make up a configuration. -/
  | unusable (detail : String)
  /-- There is no client for the configuration. -/
  | client (detail : String)
  deriving DecidableEq, Inhabited

/-- What a kubeconfig that leads to no server is reported as. -/
def AccessFault.toError : AccessFault → Error
  | .unreadable detail => .discovery (.kubeconfigUnreadable detail)
  | .unusable detail => .discovery (.kubeconfigUnusable detail)
  | .client detail => .kube (.client detail)

end EtcdBackup
