import EtcdBackup.Call

/-!
# Writing a status back

A status is written onto the record as it is stored now, and only if the status stored now is the
one that the pass started from. Everything outside the status stays as stored.
-/

set_option autoImplicit false
set_option relaxedAutoImplicit false

namespace EtcdBackup

/-- Writes `status` for a record that was read as `known`. -/
def persistStatus (known : Record) (status : Status) : Job (Except Error Unit) := do
  match ← Job.call (.get known.name) with
  | .error e => pure (.error e)
  | .ok fresh =>
    if fresh.status = known.status then
      Job.call (.updateStatus { fresh with status := some status })
    else pure (.error (.conflict (.statusMoved known.name)))

end EtcdBackup
