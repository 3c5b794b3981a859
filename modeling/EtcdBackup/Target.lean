import EtcdBackup.Bytes
import EtcdBackup.Datastore
import EtcdBackup.Text.Debug

/-!
# Backup targets

A target is one etcd cluster with what is needed to reach its two datastores: the management
cluster's own, or that of a tenant cluster. Whether the settings for a datastore version suffice
for a backup is decided by `Target.isComplete`. The texts of TLS material and of port forwards
that go into logs never show keys or credentials.
-/

set_option autoImplicit false
set_option relaxedAutoImplicit false

namespace EtcdBackup

/-- Client certificates for an etcd endpoint, in PEM form. -/
structure TlsMaterial where
  ca : Bytes := []
  cert : Bytes := []
  key : Bytes := []
  /-- The server name to verify in place of the host of the endpoint. -/
  domain : Option String := none
  deriving DecidableEq, Inhabited

/-- A port of a pod inside a workload cluster. -/
structure PortForward where
  kubeconfig : String
  podNamespace : String
  pod : String
  port : UInt16
  deriving DecidableEq, Inhabited

/-- How a v3 datastore is reached. -/
structure V3Settings where
  /-- Endpoints with commas between them. -/
  endpoints : String := ""
  tls : Option TlsMaterial := none
  /-- The pod to forward to, when the endpoint is not reachable from outside. -/
  proxy : Option PortForward := none
  deriving DecidableEq, Inhabited

/-- A backup target. -/
structure Target where
  name : String
  /-- The data directory of the v2 datastore. -/
  dataDir : String := ""
  v3 : V3Settings := {}
  /-- Whether the release of the cluster supports backups. -/
  supported : Bool := true
  deriving DecidableEq, Inhabited

/-- The reserved name of the management cluster. -/
def managementName : String := "ManagementCluster"

/-- An endpoint and TLS material are needed. -/
def V3Settings.isComplete (s : V3Settings) : Bool := !s.endpoints.isEmpty && s.tls.isSome

namespace Target

/-- The management cluster as a target. -/
def management (dataDir : String) (v3 : V3Settings) : Target :=
  { name := managementName, dataDir := dataDir, v3 := v3 }

/-- Whether the settings for a datastore version suffice for a backup. -/
def isComplete (t : Target) : Datastore → Bool
  | .v2 => !t.dataDir.isEmpty
  | .v3 => t.v3.isComplete

end Target

namespace Text

/-- The text of a value that may be absent. -/
def debugOption {α : Type} (text : α → String) : Option α → String
  | none => "None"
  | some a => "Some(" ++ text a ++ ")"

/-- A field inside the text of a structure. -/
def debugField (field : String × String) : String := field.1 ++ ": " ++ field.2

/-- The text of a structure: its name, and its fields between braces. -/
def debugStruct (name : String) (fields : List (String × String)) : String :=
  name ++ " \x7b " ++ String.intercalate ", " (fields.map debugField) ++ " \x7d"

/-- The text of a structure of which not all fields are shown. -/
def debugPartialStruct (name : String) (fields : List (String × String)) : String :=
  name ++ " \x7b " ++ String.intercalate ", " (fields.map debugField ++ [".."]) ++ " \x7d"

end Text

open Text in
/-- The text in logs, without the key and with lengths for the certificates. -/
def TlsMaterial.debug (m : TlsMaterial) : String :=
  debugStruct "TlsMaterial" [
    ("ca_bytes", toString m.ca.length), ("cert_bytes", toString m.cert.length),
    ("key", Text.debug "<redacted>"), ("domain", debugOption Text.debug m.domain)]

open Text in
/-- The text in logs, without the credentials. -/
def PortForward.debug (p : PortForward) : String :=
  debugPartialStruct "PortForwardTarget" [
    ("namespace", Text.debug p.podNamespace), ("pod", Text.debug p.pod),
    ("port", toString p.port.toNat)]

open Text in
/-- The text in logs. -/
def V3Settings.debug (s : V3Settings) : String :=
  debugStruct "EtcdV3Settings" [
    ("endpoints", Text.debug s.endpoints), ("tls", debugOption TlsMaterial.debug s.tls),
    ("proxy", debugOption PortForward.debug s.proxy)]

open Text in
/-- The text in logs. -/
def Target.debug (t : Target) : String :=
  debugStruct "EtcdInstance" [
    ("name", Text.debug t.name),
    ("v2", debugStruct "EtcdV2Settings" [("data_dir", Text.debug t.dataDir)]),
    ("v3", t.v3.debug), ("version_supported", toString t.supported)]

end EtcdBackup
