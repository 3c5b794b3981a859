import EtcdBackup.Crd.Schema
import EtcdBackup.Kubernetes.RecordStore
import EtcdBackup.Record.Codec

/-!
# The definition of backup requests

What the API server has to know of backup requests: their names, the columns in listings, and the
schemas of what is asked for and of the status.
-/

set_option autoImplicit false
set_option relaxedAutoImplicit false

namespace EtcdBackup.Crd

/-- Notes with a description. -/
def described (text : String) : Schema.Notes := { description := some text }

/-- Notes with a description of a value that can be null. -/
def optional (text : String) : Schema.Notes := { description := some text, nullable := true }

/-- Notes with a description and a default. -/
def defaulting (text : String) (value : Json) : Schema.Notes :=
  { description := some text, default := some value }

/-- A text that can be null. -/
def optionalText (text : String) : Schema := .text (optional text) none []

/-- A time that can be null. -/
def optionalTime (text : String) : Schema := .text (optional text) (some "date-time") []

/-- A count that starts at zero. -/
def count (text format : String) : Schema := .natural (defaulting text (Json.ofNat 0)) format

/-- The schema of what a request asks for. -/
def specSchema : Schema :=
  .object (described "Specification for an ETCDBackup")
    [("guestBackup", .boolean (defaulting "Include tenant clusters" (.bool false))),
      ("clusterNames",
        .list (described "Explicit list of targets; overrides automatic tenant discovery")
          (.text {} none [])),
      ("clustersRegex",
        optionalText "Tenant clusters must match this pattern (all when unset)"),
      ("clustersToExcludeRegex",
        optionalText "Tenant clusters matching this pattern are dropped")]
    []

/-- The schema of a sub-status. -/
def subStatusSchema (version : Datastore) : Schema :=
  .object (optional s!"{version.tag} progress")
    [("status",
        .text (defaulting "Current sub-state" InstanceState.pending.encode) none
          (InstanceState.all.map (·.text))),
      ("attempts", count "Pipeline invocations made so far" "uint32"),
      ("startedTimestamp", optionalTime "When the running checkpoint was written"),
      ("finishedTimestamp", optionalTime "When the sub-state became terminal"),
      ("latestError",
        .text (defaulting "Error text of the last failed attempt, cleared on success"
          (.string "")) none []),
      ("creationTime", count "Snapshot creation time in milliseconds" "uint64"),
      ("encryptionTime", count "Encryption time in milliseconds" "uint64"),
      ("uploadTime", count "Upload time in milliseconds" "uint64"),
      ("backupFileSize", count "Uploaded artifact size in bytes" "uint64"),
      ("filename", optionalText "Uploaded artifact name")]
    []

/-- The schema of the progress of a target. -/
def instanceSchema : Schema :=
  .object (described "Backup progress of one target (management cluster or tenant cluster)")
    [("name", .text (described "Target name") none []),
      ("error", optionalText "Set when the target could not be resolved at all"),
      ("v2", subStatusSchema .v2), ("v3", subStatusSchema .v3)]
    ["name"]

/-- The schema of a status. -/
def statusSchema : Schema :=
  .object (optional "Status for an ETCDBackup")
    [("status",
        .text (defaulting "Current phase of the backup cycle" Phase.empty.encode) none
          (Phase.all.map (·.wireName))),
      ("startedTimestamp", optionalTime "When the cycle left Pending"),
      ("finishedTimestamp",
        optionalTime "When the cycle reached V3BackupCompleted; anchors retention"),
      ("instances",
        .map (described "Progress per target, keyed by target name") instanceSchema),
      ("error", optionalText "Why the request failed before any target was visited")]
    []

/-- The schema of a request. -/
def recordSchema : Schema :=
  .object
    { title := some "EtcdBackup"
      description :=
        some "Auto-generated derived type for EtcdBackupSpec via `CustomResource`" }
    [("spec", specSchema), ("status", statusSchema)] ["spec"]

/-- A column in listings: its name, its type and where its value is. -/
def column (name type path : String) : Json :=
  Json.ofFields [("name", .string name), ("type", .string type), ("jsonPath", .string path)]

/-- The columns in listings. -/
def columns : List Json := [
  column "Status" "string" ".status.status",
  column "Guest" "boolean" ".spec.guestBackup",
  column "Age" "date" ".metadata.creationTimestamp"]

/-- The version of the resource. -/
def version : Json :=
  Json.ofFields [
    ("name", .string RecordStore.resource.version), ("served", .bool true),
    ("storage", .bool true), ("additionalPrinterColumns", .array columns),
    ("schema", Json.ofFields [("openAPIV3Schema", recordSchema.encode)]),
    ("subresources", Json.ofFields [("status", .object [])])]

/-- The definition of the resource. -/
def definition : Json :=
  let r := RecordStore.resource
  Json.ofFields [
    ("apiVersion", .string "apiextensions.k8s.io/v1"),
    ("kind", .string "CustomResourceDefinition"),
    ("metadata", Json.ofFields [("name", .string (r.plural ++ "." ++ r.group))]),
    ("spec", Json.ofFields [
      ("group", .string r.group),
      ("names", Json.ofFields [
        ("categories", .array []), ("kind", .string r.kind), ("plural", .string r.plural),
        ("shortNames", .array [.string "eb"]), ("singular", .string "etcdbackup")]),
      ("scope", .string "Cluster"), ("versions", .array [version])])]

end EtcdBackup.Crd
