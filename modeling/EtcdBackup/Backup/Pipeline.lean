import EtcdBackup.Call
import EtcdBackup.Path
import EtcdBackup.Retry

/-!
# Making a backup

One backup runs through creation, encryption and upload; the first step that fails ends it, and
its temporary files are removed in any case. A failed backup is tried again as a whole with a
fresh maker.
-/

set_option autoImplicit false
set_option relaxedAutoImplicit false

namespace EtcdBackup.Backup

/-- A step of a backup: its failure is tagged with the step, and its success timed. -/
def timed {α : Type} (version : Datastore) (stage : Stage) (act : Job (Except Error α)) :
    Job (Except Error (α × Duration)) := do
  let before ← Job.call .stopwatch
  match ← act with
  | .error e => pure (.error (Error.ofStage version stage e))
  | .ok a =>
    let after ← Job.call .stopwatch
    pure (.ok (a, after.since before))

/-- The steps of a backup in their order. -/
def stages (b : Backupper) : Job (Except Error Outcome) := do
  match ← timed b.version .creation (Job.call (.create b)) with
  | .error e => pure (.error e)
  | .ok (_, creation) =>
    match ← timed b.version .encryption (Job.call (.encrypt b)) with
    | .error e => pure (.error e)
    | .ok (path, encryption) =>
      match ← timed b.version .upload (Job.call (.upload path)) with
      | .error e => pure (.error e)
      | .ok (size, upload) =>
        let filename := (Path.fileName? path).getD ""
        pure (.ok ⟨creation, encryption, upload, size, filename⟩)

/-- One backup; a failure to remove the temporary files changes nothing. -/
def pipeline (b : Backupper) : Job (Except Error Outcome) := do
  let result ← stages b
  let _ ← Job.call (.cleanup b)
  pure result

/-- One backup with a fresh maker. -/
def attempt (target : Target) (version : Datastore) : Job (Except Error Outcome) := do
  match ← Job.call (.openBackupper target version) with
  | .error e => pure (.error e)
  | .ok b => pipeline b

/-- A backup with as many attempts as a policy grants. -/
def withRetries (target : Target) (version : Datastore) (policy : RetryPolicy) :
    Job (Retried Error Outcome) :=
  Retry.run (fun d ↦ Job.call (.sleep d)) policy fun _ ↦ attempt target version

end EtcdBackup.Backup
