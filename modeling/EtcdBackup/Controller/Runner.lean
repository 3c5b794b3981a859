import EtcdBackup.Backup.Pipeline
import EtcdBackup.Controller.Context
import EtcdBackup.Controller.Persist
import EtcdBackup.Selection

/-!
# Working on the targets of a request

A pass makes progress on one target at most: the first name whose reason for being no target is
not recorded yet, or else the first target whose datastore of the version at hand is not done. A
target is first marked as running, and only a later pass makes the backup.
-/

set_option autoImplicit false
set_option relaxedAutoImplicit false

namespace EtcdBackup.Runner

/-- The error of a target whose attempts were used up before. -/
def attemptsExhausted : String := "maximum number of backup attempts reached"

/-- The targets of a request; the tenant clusters are only looked up where they are needed. -/
def select (ctx : Context) (record : Record) : Job (Except Error Selection) := do
  let tenants ←
    if Selection.needsTenants record.spec then Job.call .discover else pure (.ok [])
  match tenants with
  | .error e => pure (.error e)
  | .ok tenants =>
    pure (Selection.ofSpec record.spec ctx.management ctx.skipManagement tenants)

/-- The first name whose reason is not recorded yet, with the status that records it. -/
def recordUnresolved (status : Status) : List Unresolved → Option Status
  | [] => none
  | u :: rest =>
    let entry := status.entry u.name
    if entry.error = some u.reason then recordUnresolved status rest
    else
      some { status with
        instances := status.instances.insert u.name { entry with error := some u.reason } }

/-- A finished retried backup in a sub-status. -/
def SubStatus.finish (sub : SubStatus) (retried : Retried Error Backup.Outcome)
    (finished : Instant) : SubStatus :=
  let sub := { sub with
    attempts := sub.attempts + UInt32.ofNat retried.attempts
    finished := some finished }
  match retried.result with
  | .ok o =>
    { sub with
      state := .completed
      latestError := ""
      creationMillis := o.creation.millisWord
      encryptionMillis := o.encryption.millisWord
      uploadMillis := o.upload.millisWord
      size := o.size
      filename := some o.filename }
  | .error e => { sub with state := .failed, latestError := e.message }

/-- The next state of a sub-status that is not done, with all requests it takes. -/
def advanceSub (ctx : Context) (target : Target) (version : Datastore) (now : Instant)
    (sub : SubStatus) : Job SubStatus := do
  if sub.started.isNone then
    pure { sub with started := some now, state := .running }
  else if ¬target.isComplete version then
    pure { sub with state := .skipped, finished := some now }
  else
    let remaining := ctx.retry.maxAttempts.toNat - sub.attempts.toNat
    if remaining = 0 then
      pure { sub with
        state := .failed
        finished := some now
        latestError :=
          if sub.latestError.isEmpty then attemptsExhausted else sub.latestError }
    else
      let policy := { ctx.retry with maxAttempts := UInt32.ofNat remaining }
      let retried ← Backup.withRetries target version policy
      let finished ← Job.call .now
      Job.call (.measure
        ⟨target.name, version, retried.attempts, retried.result.toOption, finished⟩)
      pure (SubStatus.finish sub retried finished)

/-- The status after the next step for a target, or nothing if the target is done. -/
def advance (ctx : Context) (status : Status) (target : Target) (version : Datastore) :
    Job (Option Status) := do
  let now ← Job.call .now
  let entry := status.entry target.name
  let sub := entry.sub version
  if sub.state.isTerminal then pure none
  else
    let sub ← advanceSub ctx target version now sub
    pure (some { status with
      instances := status.instances.insert target.name (entry.withSub version sub) })

/-- The status after the next step for the first target that is not done, or nothing if all
are. -/
def advanceFirst (ctx : Context) (version : Datastore) (status : Status) :
    List Target → Job (Option Status)
  | [] => pure none
  | target :: rest => do
    match ← advance ctx status target version with
    | some next => pure (some next)
    | none => advanceFirst ctx version status rest

/-- Makes progress on one target and writes the status; whether there was any left to make. -/
def run (ctx : Context) (record : Record) (status : Status) (version : Datastore) :
    Job (Except Error Bool) := do
  let write (next : Status) : Job (Except Error Bool) := do
    match ← persistStatus record next with
    | .error e => pure (.error e)
    | .ok () => pure (.ok true)
  match ← select ctx record with
  | .error e => pure (.error e)
  | .ok selection =>
    match recordUnresolved status selection.unresolved with
    | some next => write next
    | none =>
      match ← advanceFirst ctx version status selection.targets with
      | some next => write next
      | none => pure (.ok false)

end EtcdBackup.Runner
