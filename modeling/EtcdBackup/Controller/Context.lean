import EtcdBackup.Settings

/-!
# The operator's context

What every pass over a backup request works with, taken from the settings.
-/

set_option autoImplicit false
set_option relaxedAutoImplicit false

namespace EtcdBackup

/-- What every pass works with. -/
structure Context where
  management : Target
  skipManagement : Bool
  retry : RetryPolicy
  retention : Retention
  azureMinimum : Version
  deriving DecidableEq

/-- The context of settings; the minimum Azure release has to be a version. -/
def Context.ofSettings (s : Settings) : Except Error Context := do
  let azureMinimum ← s.azureVersion
  .ok ⟨s.management, s.skipManagement, s.retry, s.retention, azureMinimum⟩

end EtcdBackup
