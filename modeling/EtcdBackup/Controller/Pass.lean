import EtcdBackup.Controller.Retirement
import EtcdBackup.Controller.Runner

/-!
# One pass over a backup request

A pass reads a record, takes one step of its cycle and writes at most one status: it admits a
fresh request or skips it, opens and closes the two rounds over the targets, works on one target
within a round, and deletes finished requests in time. What it returns says when the record should
be looked at again.
-/

set_option autoImplicit false
set_option relaxedAutoImplicit false

namespace EtcdBackup

/-- When a record should be looked at again. -/
inductive Action
  /-- Not before it changes. -/
  | awaitChange
  | requeue (after : Duration)
  deriving DecidableEq

/-- The delay after a pass that wrote a status. -/
def progressDelay : Duration := Duration.ofSeconds 1

/-- The delay for finished requests that are kept. -/
def retentionDelay : Duration := Duration.ofSeconds 300

/-- The delay after a stale write. -/
def conflictDelay : Duration := Duration.ofSeconds 1

/-- The delay after any other error. -/
def errorDelay : Duration := Duration.ofSeconds 30

/-- When a record should be looked at again after a pass that failed. -/
def Action.ofError (e : Error) : Action :=
  .requeue (if e.isConflict then conflictDelay else errorDelay)

/-- What one step of the cycle amounts to. -/
inductive Transition
  /-- This status is to be written. -/
  | advance (status : Status)
  /-- A status was written already. -/
  | progressed
  /-- The record was deleted. -/
  | deleted
  /-- Nothing is to be done. -/
  | idle
  deriving DecidableEq

namespace Pass

/-- Order of two times of creation; a missing one comes first. -/
def compareCreated : Option Instant → Option Instant → Ordering
  | none, none => .eq
  | none, some _ => .lt
  | some _, none => .gt
  | some a, some b => compare a b

/-- Order of two requests: by time of creation, then by name. -/
def compareAge (a b : Record) : Ordering :=
  (compareCreated a.created b.created).then (compare a.name b.name)

/-- The newest of some requests, the last of several equally new ones. -/
def newest? : List Record → Option Record
  | [] => none
  | r :: rest => some (rest.foldl (fun best x ↦ if compareAge x best = .lt then best else x) r)

/-- Whether a request is in the middle of its cycle. -/
def isActive (r : Record) : Bool := r.phase ≠ .empty && !r.phase.isTerminal

/-- Whether a fresh request may start its cycle, judged by all requests there are. -/
def admission (record : Record) (all : List Record) : Phase :=
  let superseded := (newest? all).any fun r ↦ r.name ≠ record.name
  let blocked := all.any fun r ↦ r.name ≠ record.name && isActive r
  if superseded || blocked then .skipped else .pending

/-- Whether the patterns of a request matter in a phase. -/
def readsPatterns : Phase → Bool
  | .pending | .v2Running | .v3Running => true
  | _ => false

/-- Deletes a finished request in time. -/
def retire (record : Record) (reference : Option Instant) (retention : Duration)
    (now : Instant) : Job (Except Error Transition) := do
  match ← retireRecord record reference retention now with
  | .error e => pure (.error e)
  | .ok true => pure (.ok .deleted)
  | .ok false => pure (.ok .idle)

/-- One round over the targets, and the phase behind it. -/
def round (ctx : Context) (record : Record) (status : Status) (version : Datastore)
    (next : Phase) : Job (Except Error Transition) := do
  match ← Runner.run ctx record status version with
  | .error e => pure (.error e)
  | .ok true => pure (.ok .progressed)
  | .ok false => pure (.ok (.advance { status with phase := next }))

/-- One step of the cycle of a record as it was read. -/
def step (ctx : Context) (record : Record) (now : Instant) :
    Job (Except Error Transition) := do
  let status := record.status.getD {}
  let go (phase : Phase) : Transition := .advance { status with phase := phase }
  match if readsPatterns status.phase then Selection.checkPatterns record.spec else .ok () with
  | .error e =>
    pure (.ok (.advance { status with
      error := some e.message, finished := some now, phase := .failed }))
  | .ok () =>
    match status.phase with
    | .empty =>
      match ← Job.call .list with
      | .error e => pure (.error e)
      | .ok all => pure (.ok (go (admission record all)))
    | .pending =>
      pure (.ok (.advance { status with
        started := some now, instances := ∅, phase := .v2Running }))
    | .v2Running => round ctx record status .v2 .v2Completed
    | .v2Completed => pure (.ok (go .v3Running))
    | .v3Running => round ctx record status .v3 .v3Completed
    | .v3Completed =>
      let verdict : Phase := if status.anyFailed then .failed else .completed
      pure (.ok (.advance { status with finished := some now, phase := verdict }))
    | .completed | .failed =>
      retire record (record.finished <|> record.created) ctx.retention.completed now
    | .skipped => retire record record.created ctx.retention.skipped now

/-- Carries out what a step amounts to; the phase of a record only moves forward. -/
def conclude (record : Record) : Transition → Job (Except Error Action)
  | .advance status =>
    if record.phase.rank < status.phase.rank then do
      match ← persistStatus record status with
      | .error e => pure (.error e)
      | .ok () => pure (.ok (.requeue progressDelay))
    else pure (.ok (.requeue retentionDelay))
  | .progressed => pure (.ok (.requeue progressDelay))
  | .deleted => pure (.ok .awaitChange)
  | .idle => pure (.ok (.requeue retentionDelay))

/-- One pass over the request with a name. -/
def reconcile (ctx : Context) (name : String) : Job (Except Error Action) := do
  match ← Job.call (.get name) with
  | .error e => pure (if e.isNotFound then .ok .awaitChange else .error e)
  | .ok record =>
    let now ← Job.call .now
    match ← step ctx record now with
    | .error e => pure (.error e)
    | .ok transition => conclude record transition

end Pass

end EtcdBackup
