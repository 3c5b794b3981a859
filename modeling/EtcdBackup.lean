import EtcdBackup.Archive
import EtcdBackup.Archive.Crc32
import EtcdBackup.Archive.Gzip
import EtcdBackup.Archive.Tar
import EtcdBackup.Backup.Maker
import EtcdBackup.Backup.Outcome
import EtcdBackup.Backup.Pipeline
import EtcdBackup.Backup.Snapshot
import EtcdBackup.Backup.Workspace
import EtcdBackup.Bytes
import EtcdBackup.Call
import EtcdBackup.Cli.Arguments
import EtcdBackup.Cli.Run
import EtcdBackup.Controller.Context
import EtcdBackup.Controller.Pass
import EtcdBackup.Controller.Persist
import EtcdBackup.Controller.Retirement
import EtcdBackup.Controller.Runner
import EtcdBackup.Crd.Definition
import EtcdBackup.Crd.Schema
import EtcdBackup.Crypto.Aead
import EtcdBackup.Crypto.Argon2
import EtcdBackup.Crypto.Blake2b
import EtcdBackup.Crypto.ChaCha20
import EtcdBackup.Crypto.Poly1305
import EtcdBackup.Datastore
import EtcdBackup.Decimal.Binary64
import EtcdBackup.Dialogue
import EtcdBackup.Discovery.Event
import EtcdBackup.Discovery.TenantClusters
import EtcdBackup.Effect
import EtcdBackup.Error
import EtcdBackup.Etcd.Connection
import EtcdBackup.Etcd.Pem
import EtcdBackup.FileTree
import EtcdBackup.Json.Basic
import EtcdBackup.Json.Decode
import EtcdBackup.Json.Parser
import EtcdBackup.Json.Printer
import EtcdBackup.Json.Traverse
import EtcdBackup.Json.Yaml
import EtcdBackup.Keyed
import EtcdBackup.Kubernetes.Access
import EtcdBackup.Kubernetes.RecordStore
import EtcdBackup.Kubernetes.Request
import EtcdBackup.Kubernetes.Response
import EtcdBackup.Kubernetes.Secret
import EtcdBackup.Machine
import EtcdBackup.Main
import EtcdBackup.Metrics
import EtcdBackup.Operator
import EtcdBackup.Path
import EtcdBackup.Pattern.Analysis
import EtcdBackup.Pattern.Automaton
import EtcdBackup.Pattern.Basic
import EtcdBackup.Pattern.Class
import EtcdBackup.Pattern.Fault
import EtcdBackup.Pattern.Machine
import EtcdBackup.Pattern.Parser
import EtcdBackup.Pattern.Program
import EtcdBackup.Pattern.Syntax
import EtcdBackup.Proofs.Archive
import EtcdBackup.Proofs.Backup.Artifact
import EtcdBackup.Proofs.Backup.ArtifactNames
import EtcdBackup.Proofs.Backup.Restorable
import EtcdBackup.Proofs.Backup.Successes
import EtcdBackup.Proofs.Backup.Trace
import EtcdBackup.Proofs.Controller.Attempts
import EtcdBackup.Proofs.Controller.Decision
import EtcdBackup.Proofs.Controller.Effects
import EtcdBackup.Proofs.Controller.Gates
import EtcdBackup.Proofs.Controller.Newest
import EtcdBackup.Proofs.Controller.Plan
import EtcdBackup.Proofs.Controller.Progress
import EtcdBackup.Proofs.Controller.ReadBack
import EtcdBackup.Proofs.Controller.Reported
import EtcdBackup.Proofs.Controller.Retention
import EtcdBackup.Proofs.Controller.Round
import EtcdBackup.Proofs.Controller.Spending
import EtcdBackup.Proofs.Course
import EtcdBackup.Proofs.Crd.Conformance
import EtcdBackup.Proofs.Crd.WrittenSchema
import EtcdBackup.Proofs.Discovery.Containment
import EtcdBackup.Proofs.Discovery.Eligible
import EtcdBackup.Proofs.Discovery.Namesakes
import EtcdBackup.Proofs.Interleaving.Admission
import EtcdBackup.Proofs.Interleaving.Budget
import EtcdBackup.Proofs.Interleaving.Checkpoint
import EtcdBackup.Proofs.Interleaving.Clock
import EtcdBackup.Proofs.Interleaving.Coherence
import EtcdBackup.Proofs.Interleaving.Commit
import EtcdBackup.Proofs.Interleaving.History
import EtcdBackup.Proofs.Interleaving.Kept
import EtcdBackup.Proofs.Interleaving.Metered
import EtcdBackup.Proofs.Interleaving.Named
import EtcdBackup.Proofs.Interleaving.NoLostUpdate
import EtcdBackup.Proofs.Interleaving.PhaseOrder
import EtcdBackup.Proofs.Interleaving.Reasons
import EtcdBackup.Proofs.Interleaving.RoundEnd
import EtcdBackup.Proofs.Interleaving.Shape
import EtcdBackup.Proofs.Interleaving.Solo
import EtcdBackup.Proofs.Interleaving.Store
import EtcdBackup.Proofs.Interleaving.World
import EtcdBackup.Proofs.Json.Fields
import EtcdBackup.Proofs.Json.MergePatch
import EtcdBackup.Proofs.Json.Ordered
import EtcdBackup.Proofs.Json.Text
import EtcdBackup.Proofs.Kubernetes.StatusPatch
import EtcdBackup.Proofs.Lookup
import EtcdBackup.Proofs.Metrics
import EtcdBackup.Proofs.Monitor
import EtcdBackup.Proofs.Path
import EtcdBackup.Proofs.Record.Codec
import EtcdBackup.Proofs.Record.Entries
import EtcdBackup.Proofs.Record.Growth
import EtcdBackup.Proofs.Record.Retains
import EtcdBackup.Proofs.Record.RoundTrip
import EtcdBackup.Proofs.Record.Timestamps
import EtcdBackup.Proofs.SealedFile
import EtcdBackup.Proofs.SealedForm
import EtcdBackup.Proofs.Selection
import EtcdBackup.Proofs.Selection.Automatic
import EtcdBackup.Proofs.Selection.DiscoveryOrder
import EtcdBackup.Proofs.Selection.Partition
import EtcdBackup.Proofs.Simulation.Files
import EtcdBackup.Proofs.Text.Bytewise
import EtcdBackup.Proofs.Text.Utf8
import EtcdBackup.Proofs.Time.Calendar
import EtcdBackup.Proofs.Time.Elapsed
import EtcdBackup.Proofs.Time.FileText
import EtcdBackup.Proofs.Time.Text
import EtcdBackup.Proofs.Undisturbed.Admission
import EtcdBackup.Proofs.Undisturbed.Cycle
import EtcdBackup.Proofs.Undisturbed.Independence
import EtcdBackup.Proofs.Undisturbed.Lockstep
import EtcdBackup.Proofs.Undisturbed.Measure
import EtcdBackup.Proofs.Undisturbed.Outline
import EtcdBackup.Proofs.Undisturbed.Passes
import EtcdBackup.Proofs.Undisturbed.Script
import EtcdBackup.Provider
import EtcdBackup.Record.Basic
import EtcdBackup.Record.Codec
import EtcdBackup.Record.Phase
import EtcdBackup.Record.Status
import EtcdBackup.Retry
import EtcdBackup.Sealed
import EtcdBackup.SealedFile
import EtcdBackup.Selection
import EtcdBackup.Semver
import EtcdBackup.Settings
import EtcdBackup.Simulation.ApiTable
import EtcdBackup.Simulation.Etcdctl
import EtcdBackup.Simulation.Files
import EtcdBackup.Simulation.Kubeconfig
import EtcdBackup.Simulation.Surroundings
import EtcdBackup.Simulation.World
import EtcdBackup.Target
import EtcdBackup.Text.Base64
import EtcdBackup.Text.Blank
import EtcdBackup.Text.Debug
import EtcdBackup.Text.Hex
import EtcdBackup.Text.Percent
import EtcdBackup.Text.Utf8
import EtcdBackup.Time.Calendar
import EtcdBackup.Time.Duration
import EtcdBackup.Time.Instant
import EtcdBackup.Time.Parser
import EtcdBackup.Time.Printer
import EtcdBackup.TlsFiles
import EtcdBackup.Unicode.Category
import EtcdBackup.Unicode.CharSet
import EtcdBackup.Unicode.Folding
import EtcdBackup.Unicode.Lookup
import EtcdBackup.Unicode.Printable
import EtcdBackup.Unicode.Property
import EtcdBackup.Unicode.Script
import EtcdBackup.Upload
import EtcdBackup.Uri
import EtcdBackup.Proofs.Discovery.Resolution
