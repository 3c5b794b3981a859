import EtcdBackup.Record.Basic

/-!
# The wire form of backup requests

How requests and statuses are written as JSON and read back. Absent values and empty lists and
maps are left out in writing; reading supplies them.
-/

set_option autoImplicit false
set_option relaxedAutoImplicit false

namespace EtcdBackup

/-- A member that is left out when it has no value. -/
def Json.optionalMember {α : Type} (key : String) (encode : α → Json) :
    Option α → List (String × Json)
  | none => []
  | some a => [(key, encode a)]

/-- A time on the wire. -/
def Instant.encode (t : Instant) : Json := .string t.text

namespace SubStatus

/-- The form on the wire. -/
def encode (s : SubStatus) : Json :=
  Json.ofFields <|
    [("status", s.state.encode), ("attempts", Json.ofNat s.attempts.toNat)] ++
    Json.optionalMember "startedTimestamp" Instant.encode s.started ++
    Json.optionalMember "finishedTimestamp" Instant.encode s.finished ++
    [("latestError", .string s.latestError),
      ("creationTime", Json.ofNat s.creationMillis.toNat),
      ("encryptionTime", Json.ofNat s.encryptionMillis.toNat),
      ("uploadTime", Json.ofNat s.uploadMillis.toNat),
      ("backupFileSize", Json.ofNat s.size.toNat)] ++
    Json.optionalMember "filename" .string s.filename

/-- The fields on the wire, in their order. -/
def fields : Fields SubStatus :=
  (Fields.start SubStatus.mk)
    |>.default "status" InstanceState.decode .pending
    |>.default "attempts" Decoder.uint32 0
    |>.default "startedTimestamp" (Decoder.option Decoder.instant) none
    |>.default "finishedTimestamp" (Decoder.option Decoder.instant) none
    |>.default "latestError" Decoder.string ""
    |>.default "creationTime" Decoder.uint64 0
    |>.default "encryptionTime" Decoder.uint64 0
    |>.default "uploadTime" Decoder.uint64 0
    |>.default "backupFileSize" Decoder.uint64 0
    |>.default "filename" (Decoder.option Decoder.string) none

/-- Reads the form on the wire. -/
def decode : Decoder SubStatus := fields.decode "VersionStatus"

end SubStatus

namespace InstanceStatus

/-- The form on the wire. -/
def encode (s : InstanceStatus) : Json :=
  Json.ofFields <|
    [("name", .string s.name)] ++ Json.optionalMember "error" .string s.error ++
    Json.optionalMember "v2" SubStatus.encode s.v2 ++
    Json.optionalMember "v3" SubStatus.encode s.v3

/-- The fields on the wire, in their order. -/
def fields : Fields InstanceStatus :=
  (Fields.start InstanceStatus.mk)
    |>.required "name" Decoder.string
    |>.default "error" (Decoder.option Decoder.string) none
    |>.default "v2" (Decoder.option SubStatus.decode) none
    |>.default "v3" (Decoder.option SubStatus.decode) none

/-- Reads the form on the wire. -/
def decode : Decoder InstanceStatus := fields.decode "InstanceStatus"

end InstanceStatus

namespace Status

/-- The form on the wire. -/
def encode (s : Status) : Json :=
  Json.ofFields <|
    [("status", s.phase.encode)] ++
    Json.optionalMember "startedTimestamp" Instant.encode s.started ++
    Json.optionalMember "finishedTimestamp" Instant.encode s.finished ++
    (if s.instances.isEmpty then []
      else [("instances",
        .object (s.instances.entries.map fun (name, entry) ↦ (name, entry.encode)))]) ++
    Json.optionalMember "error" .string s.error

/-- The fields on the wire, in their order. -/
def fields : Fields Status :=
  (Fields.start Status.mk)
    |>.default "status" Phase.decode .empty
    |>.default "startedTimestamp" (Decoder.option Decoder.instant) none
    |>.default "finishedTimestamp" (Decoder.option Decoder.instant) none
    |>.default "instances" (Decoder.keyed InstanceStatus.decode) ∅
    |>.default "error" (Decoder.option Decoder.string) none

/-- Reads the form on the wire. -/
def decode : Decoder Status := fields.decode "EtcdBackupStatus"

end Status

namespace Spec

/-- The form on the wire. -/
def encode (s : Spec) : Json :=
  Json.ofFields <|
    [("guestBackup", .bool s.guestBackup)] ++
    (if s.clusterNames.isEmpty then []
      else [("clusterNames", .array (s.clusterNames.map .string))]) ++
    Json.optionalMember "clustersRegex" .string s.clustersRegex ++
    Json.optionalMember "clustersToExcludeRegex" .string s.clustersToExcludeRegex

/-- The fields on the wire, in their order. -/
def fields : Fields Spec :=
  (Fields.start Spec.mk)
    |>.default "guestBackup" Decoder.bool false
    |>.default "clusterNames" (Decoder.list Decoder.string) []
    |>.default "clustersRegex" (Decoder.option Decoder.string) none
    |>.default "clustersToExcludeRegex" (Decoder.option Decoder.string) none

/-- Reads the form on the wire. -/
def decode : Decoder Spec := fields.decode "EtcdBackupSpec"

end Spec

namespace Metadata

/-- An entry about the fields that a client manages. -/
def managedFields : Fields Unit :=
  ((Fields.start ()).checkAll
      ["apiVersion", "fieldsType", "manager", "operation", "subresource"]
      (Decoder.option Decoder.string))
    |>.check "time" (Decoder.option Decoder.instant)

/-- A reference to the owner of an object. -/
def ownerReference : Fields Unit :=
  ((Fields.start ()).checkAll ["apiVersion", "kind", "name", "uid"]
      (Decoder.option Decoder.string))
    |>.checkAll ["blockOwnerDeletion", "controller"] (Decoder.option Decoder.bool)

/-- The fields on the wire. -/
def fields : Fields Metadata :=
  let text := Decoder.option Decoder.string
  let time := Decoder.option Decoder.instant
  let number := Decoder.option Decoder.int64
  let texts := Decoder.option (Decoder.keyed Decoder.string)
  (Fields.start Metadata.mk)
    |>.default "name" text none
    |>.default "generateName" text none
    |>.default "namespace" text none
    |>.default "resourceVersion" text none
    |>.default "creationTimestamp" time none
    |>.default "deletionTimestamp" time none
    |>.default "labels" texts none
    |>.default "annotations" texts none
    |>.checkAll ["deletionGracePeriodSeconds", "generation"] number
    |>.checkAll ["selfLink", "uid"] text
    |>.check "finalizers" (Decoder.option (Decoder.list Decoder.string))
    |>.check "managedFields"
      (Decoder.option (Decoder.list (managedFields.decodeObject "ManagedFieldsEntry")))
    |>.check "ownerReferences"
      (Decoder.option (Decoder.list (ownerReference.decodeObject "OwnerReference")))

/-- Reads the metadata of an object. -/
def decode : Decoder Metadata := fields.decodeObject "ObjectMeta"

end Metadata

namespace Record

/-- The fields on the wire, in their order. -/
def fields : Fields Record :=
  (Fields.start Record.mk)
    |>.required "metadata" Metadata.decode
    |>.required "spec" Spec.decode
    |>.optional "status" Status.decode

/-- Reads the form on the wire. -/
def decode : Decoder Record := fields.decode "EtcdBackup"

end Record

end EtcdBackup
