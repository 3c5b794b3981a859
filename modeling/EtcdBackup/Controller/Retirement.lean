import EtcdBackup.Call

/-!
# Deleting finished requests

A finished request is deleted once more than the time of its retention has passed since a
reference time; a request without one is kept.
-/

set_option autoImplicit false
set_option relaxedAutoImplicit false

namespace EtcdBackup

/-- Whether strictly more than `retention` passed from `reference` to `now`. -/
def isDue (reference now : Instant) (retention : Duration) : Bool :=
  (retention.nanos : Int) < now.nanosSince reference

/-- Deletes a record that is due; whether it was deleted. -/
def retireRecord (record : Record) (reference : Option Instant) (retention : Duration)
    (now : Instant) : Job (Except Error Bool) := do
  match reference with
  | none => pure (.ok false)
  | some reference =>
    if isDue reference now retention then
      match ← Job.call (.delete record.name) with
      | .error e => pure (.error e)
      | .ok () => pure (.ok true)
    else pure (.ok false)

end EtcdBackup
