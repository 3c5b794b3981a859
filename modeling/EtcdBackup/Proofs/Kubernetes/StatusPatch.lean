import EtcdBackup.Kubernetes.RecordStore
import EtcdBackup.Proofs.Course
import EtcdBackup.Proofs.Record.Retains

/-!
# Writing a status at the API server

A status is sent as a merge patch together with the resource version of the record that was read.
The server merges it into the object that it holds, if that has the version still
(`ApiRequest.Merges`). The object then has the metadata and the spec that it had before, and the
status that was sent, if this one retains the old one; a status without entries does not remove
those that are stored (`exists_decode_of_merges`).
-/

set_option autoImplicit false
set_option relaxedAutoImplicit false

namespace EtcdBackup

open Dialogue

namespace ApiRequest

/-- The server applies a request to an object that it holds: it merges the body into the object, if
both name the same version. -/
inductive Merges (request : ApiRequest) (stored : Json) : Json → Prop
  | intro {patch : Json} {version : String}
      (body : request.body = some ⟨"application/merge-patch+json", patch⟩)
      (named : patch.path ["metadata", "resourceVersion"] = .string version)
      (current : stored.path ["metadata", "resourceVersion"] = .string version) :
      Merges request stored (stored.mergePatch patch)

theorem body_of_build {method : Method} {address : String} {parameters : List (String × String)}
    {body : Option Body} {request : ApiRequest}
    (h : build method address parameters body = .ok request) : request.body = body := by
  unfold build at h
  dsimp only at h
  split at h
  · cases h
    rfl
  · cases h

theorem body_of_patchStatus {objects : ObjectPath} {name : String} {patch : Json}
    {request : ApiRequest} (h : patchStatus objects name patch = .ok request) :
    request.body = some ⟨"application/merge-patch+json", patch⟩ := by
  unfold patchStatus ofName at h
  split at h
  · cases h
  · exact body_of_build h

end ApiRequest

namespace Record

theorem lawful_fields : fields.Lawful :=
  (Fields.lawful_start _).required.required.optional

theorem reads_iff {r : Record} {members : List (String × Json)} :
    fields.Reads members r ↔
      Fields.read Metadata.decode (.error (.missingField "metadata"))
        (Keyed.find? "metadata" members) = .ok r.metadata ∧
      Fields.read Spec.decode (.error (.missingField "spec")) (Keyed.find? "spec" members) =
        .ok r.spec ∧
      Fields.read (Decoder.option Status.decode) (.ok none) (Keyed.find? "status" members) =
        .ok r.status := by
  constructor
  · intro h
    obtain ⟨_, _, h₂, hstatus, rfl⟩ := h.exists_of_optional
    obtain ⟨_, _, h₁, hspec, rfl⟩ := h₂.exists_of_required
    obtain ⟨_, _, h₀, hmetadata, rfl⟩ := h₁.exists_of_required
    cases h₀.ofMembers
    exact ⟨hmetadata, hspec, hstatus⟩
  · rintro ⟨hmetadata, hspec, hstatus⟩
    exact Fields.reads_start Record.mk members
      |>.required hmetadata |>.required hspec |>.optional hstatus

end Record

namespace RecordStore

variable {record fresh : Record} {status : Status} {stored after : Json} {request : ApiRequest}

/-- What is sent is the status patch. -/
theorem body_of_updateStatus {server : ApiServer} {answer : Except String ApiResponse}
    {rest : Work (Except Error Unit)}
    (h : (updateStatus record).Leads [⟨.api server request, answer⟩] rest) :
    request.body = some ⟨"application/merge-patch+json", statusPatch record⟩ := by
  unfold updateStatus Work.request at h
  cases hrequest : ApiRequest.patchStatus records record.name (statusPatch record) with
  | error e =>
    rw [hrequest] at h
    cases h
  | ok request' =>
    rw [hrequest] at h
    cases h with
    | ask _ => exact ApiRequest.body_of_patchStatus hrequest

theorem get?_statusPatch (record : Record) (status : Status) :
    let patch := statusPatch { record with status := some status }
    patch.get? "metadata" = some (Json.ofFields
        [("resourceVersion", Json.ofOption .string record.metadata.resourceVersion)]) ∧
      patch.get? "spec" = none ∧ patch.get? "status" = some status.encode := by
  simp [statusPatch, Json.get?_ofFields, Keyed.find?, Json.ofOption]

/-- The version that is sent is the one that was read. -/
theorem path_statusPatch (record : Record) :
    (statusPatch record).path ["metadata", "resourceVersion"] =
      Json.ofOption .string record.metadata.resourceVersion := by
  simp [statusPatch, Json.path, Json.getD, Json.get?_ofFields, Keyed.find?]

/-- The members of a record that a status patch was applied to. The metadata that are sent are part
of those that are stored. -/
theorem get?_mergePatch_statusPatch {version : String} (ordered : stored.Ordered)
    (named : (statusPatch { record with status := some status }).path
      ["metadata", "resourceVersion"] = .string version)
    (current : stored.path ["metadata", "resourceVersion"] = .string version) :
    let after := stored.mergePatch (statusPatch { record with status := some status })
    after.get? "metadata" = some (stored.getD "metadata") ∧
      after.get? "spec" = stored.get? "spec" ∧
      after.get? "status" = some ((stored.getD "status").mergePatch status.encode) := by
  intro after
  obtain ⟨hmetadata, hspec, hstatus⟩ := get?_statusPatch record status
  refine ⟨?_, Json.get?_mergePatch_of_none hspec, Json.get?_mergePatch_of_some hstatus rfl⟩
  have hversion : Json.ofOption .string record.metadata.resourceVersion = .string version :=
    (path_statusPatch { record with status := some status }).symm.trans named
  rw [hversion] at hmetadata
  have hself := Json.mergePatch_eq_self (ordered.getD "metadata") current
  exact (Json.get?_mergePatch_of_some hmetadata rfl).trans (congrArg some hself)

/-- What is read of a record after the server applied a status patch to it. -/
theorem exists_decode_of_merges (ordered : stored.Ordered)
    (hread : Record.decode stored = .ok fresh) (retains : status.Retains (fresh.status.getD {}))
    (body : request.body = some ⟨"application/merge-patch+json",
      statusPatch { fresh with status := some status }⟩)
    (merges : request.Merges stored after) :
    ∃ instances, Record.decode after =
        .ok { fresh with status := some { status with instances := instances } } ∧
      (instances = status.instances ∨
        status.instances = ∅ ∧ instances = (fresh.status.getD {}).instances) := by
  cases merges with
  | @intro patch version body' named current =>
    obtain rfl : statusPatch { fresh with status := some status } = patch := by
      rw [body] at body'
      cases body'
      rfl
    rcases Fields.cases_of_decode Record.lawful_fields ordered hread with
      ⟨members, rfl, reads⟩ | ⟨items, rfl⟩
    case inr => cases current
    obtain ⟨hmetadata, hspec, hstatus⟩ := Record.reads_iff.1 reads
    rw [Fields.read_option] at hstatus
    obtain ⟨instances, hdecode, hcases⟩ :=
      Status.exists_decode_mergePatch (ordered.getD "status") hstatus retains
    obtain ⟨hmetadata', hspec', hstatus'⟩ := get?_mergePatch_statusPatch ordered named current
    refine ⟨instances, (Fields.decode_object_iff Record.lawful_fields
      (Json.ascending_mergeMembers ordered.ascending _) _ _).2 (Record.reads_iff.2 ⟨?_, ?_, ?_⟩),
      hcases⟩
    · exact (congrArg (Fields.read _ _) hmetadata').trans (Fields.decode_of_read hmetadata)
    · exact (congrArg (Fields.read _ _) hspec').trans hspec
    · refine (congrArg (Fields.read _ _) hstatus').trans ?_
      exact Decoder.option_of_ok hdecode (Json.isNull_mergePatch _ _)

end RecordStore

end EtcdBackup
