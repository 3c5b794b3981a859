import EtcdBackup.Backup.Outcome
import EtcdBackup.Keyed

/-!
# Metrics

For each target and datastore version a `Series` counts the runs of the backup and keeps the
measurements of the last success. `Metrics.record` adds the result of one retried backup: all its
runs but the last failed, and the last one too if there is no outcome.
-/

set_option autoImplicit false
set_option relaxedAutoImplicit false

namespace EtcdBackup

/-- The numbers of one target and datastore version. -/
structure Series where
  attempts : Nat := 0
  successes : Nat := 0
  failures : Nat := 0
  creation : Duration := .zero
  encryption : Duration := .zero
  upload : Duration := .zero
  size : UInt64 := 0
  latestAttempt : Option Instant := none
  latestSuccess : Option Instant := none
  deriving DecidableEq, Inhabited

/-- The series of one target. -/
structure TargetSeries where
  v2 : Option Series := none
  v3 : Option Series := none
  deriving DecidableEq, Inhabited

/-- All series, by the name of the target. -/
structure Metrics where
  targets : Keyed TargetSeries := ∅
  deriving DecidableEq, Inhabited

/-- The result of one retried backup. -/
structure Measurement where
  target : String
  version : Datastore
  attempts : Nat
  outcome : Option Backup.Outcome
  finished : Instant
  deriving DecidableEq

namespace Series

/-- The series with the result of one retried backup added. -/
def add (s : Series) (attempts : Nat) (outcome : Option Backup.Outcome) (finished : Instant) :
    Series :=
  let s := { s with attempts := s.attempts + attempts, latestAttempt := some finished }
  match outcome with
  | none => { s with failures := s.failures + attempts }
  | some o =>
    { s with
      successes := s.successes + 1
      failures := s.failures + (attempts - 1)
      creation := o.creation
      encryption := o.encryption
      upload := o.upload
      size := o.size
      latestSuccess := some finished }

end Series

namespace TargetSeries

/-- The series of one datastore version. -/
def get? (t : TargetSeries) : Datastore → Option Series
  | .v2 => t.v2
  | .v3 => t.v3

/-- Replaces the series of one datastore version. -/
def set (t : TargetSeries) (version : Datastore) (s : Series) : TargetSeries :=
  match version with
  | .v2 => { t with v2 := some s }
  | .v3 => { t with v3 := some s }

end TargetSeries

namespace Metrics

/-- The series of a target and datastore version, if one was recorded. -/
def get? (m : Metrics) (target : String) (version : Datastore) : Option Series :=
  (m.targets.get? target).bind (·.get? version)

/-- Adds the result of one retried backup. -/
def record (m : Metrics) (x : Measurement) : Metrics :=
  let t := (m.targets.get? x.target).getD {}
  let s := (t.get? x.version).getD {}
  ⟨m.targets.insert x.target (t.set x.version (s.add x.attempts x.outcome x.finished))⟩

/-- All series in the order of the targets' names, v2 before v3. -/
def toList (m : Metrics) : List (String × Datastore × Series) :=
  m.targets.entries.flatMap fun (name, t) ↦
    [Datastore.v2, Datastore.v3].filterMap fun version ↦
      (t.get? version).map fun s ↦ (name, version, s)

end Metrics

end EtcdBackup
