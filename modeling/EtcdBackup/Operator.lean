import EtcdBackup.Backup.Maker
import EtcdBackup.Controller.Context
import EtcdBackup.Discovery.TenantClusters
import EtcdBackup.Kubernetes.RecordStore
import EtcdBackup.Metrics
import EtcdBackup.Upload
import EtcdBackup.Call

/-!
# The operator

The operator answers the requests of a pass itself: backup requests and tenant clusters come from
the API server, makers of backups work on the machine, and uploads go to the object store. Between
passes it keeps the makers that were opened and the metrics.
-/

set_option autoImplicit false
set_option relaxedAutoImplicit false

namespace EtcdBackup

/-- What the operator is set up with. -/
structure Operator.Setup where
  installation : String
  passphrase : String
  store : S3Settings
  azureMinimum : Version
  deriving Inhabited

/-- What the operator keeps between passes. -/
structure Operator where
  makers : Array Backup.Maker := #[]
  metrics : Metrics := {}
  deriving Inhabited

namespace Operator

/-- The setup that settings ask for. -/
def Setup.ofSettings (s : Settings) : Except Error Setup := do
  let azureMinimum ← s.azureVersion
  .ok ⟨s.installation, s.encryptionPassword, s.s3, azureMinimum⟩

/-- A computation with the operator's state. -/
abbrev Run (α : Type) : Type := StateT Operator (Dialogue Effects) α

/-- Opens a maker of backups. -/
def openMaker (setup : Setup) (target : Target) (version : Datastore) :
    Run (Except Error Backupper) := do
  match ← Backup.Maker.create setup.installation setup.passphrase target version with
  | .error e => pure (.error e)
  | .ok maker => do
    let id := (← get).makers.size
    modify fun o ↦ { o with makers := o.makers.push maker }
    pure (.ok ⟨id, version⟩)

/-- Lets a maker take a step. -/
def withMaker {α : Type} (b : Backupper) (act : Backup.Maker → Work (α × Backup.Maker)) :
    Run α := do
  let (result, maker) ← act ((← get).makers.getD b.id default)
  modify fun o ↦ { o with makers := o.makers.setIfInBounds b.id maker }
  pure result

/-- Answers a request of a pass. -/
def answer (setup : Setup) : (c : Call) → Run c.Answer
  | .now => Work.call .now
  | .stopwatch => Work.call .stopwatch
  | .sleep d => Work.call (.sleep d)
  | .get name => RecordStore.get name
  | .list => RecordStore.list
  | .updateStatus record => RecordStore.updateStatus record
  | .delete name => RecordStore.delete name
  | .discover => Discovery.tenantClusters setup.azureMinimum
  | .openBackupper target version => openMaker setup target version
  | .create b => withMaker b Backup.Maker.makeArtifact
  | .encrypt b => withMaker b Backup.Maker.encrypt
  | .upload path => Upload.file setup.store path
  | .cleanup b => withMaker b Backup.Maker.cleanup
  | .measure x => modify fun o ↦ { o with metrics := o.metrics.record x }

/-- Runs a pass or another computation that makes requests. -/
def run {α : Type} (setup : Setup) (job : Job α) : Run α := job.run (answer setup)

end Operator

end EtcdBackup
