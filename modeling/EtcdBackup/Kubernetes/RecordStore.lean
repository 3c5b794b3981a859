import EtcdBackup.Effect

/-!
# The store of backup requests

Backup requests are objects at the API server. Writing a status names the resource version that
was read, so that the server refuses the write if the object changed since, and a deletion of an
object that is gone counts as done.
-/

set_option autoImplicit false
set_option relaxedAutoImplicit false

namespace EtcdBackup.RecordStore

/-- The resource of backup requests. -/
def resource : ApiResource :=
  ⟨"backup.giantswarm.io", "v1alpha1", "ETCDBackup", "etcdbackups"⟩

/-- All backup requests. -/
def records : ObjectPath := ⟨resource, none⟩

/-- The changes that write the status of a record as it was read. -/
def statusPatch (record : Record) : Json :=
  Json.ofFields [
    ("metadata", Json.ofFields
      [("resourceVersion", Json.ofOption .string record.metadata.resourceVersion)]),
    ("status", Json.ofOption Status.encode record.status)]

/-- Reads a request. -/
def get (name : String) : Work (Except Error Record) := do
  let answer ← Work.request .management (ApiRequest.get records name) Record.decode
  pure (answer.mapError .kube)

/-- Reads all requests. -/
def list : Work (Except Error (List Record)) := do
  let answer ← Work.request .management (ApiRequest.list records [])
    (ApiResponse.objects Record.decode)
  pure (answer.mapError .kube)

/-- Writes the status of a record, unless the record changed since it was read. -/
def updateStatus (record : Record) : Work (Except Error Unit) := do
  match ← Work.request .management
      (ApiRequest.patchStatus records record.name (statusPatch record)) Record.decode with
  | .ok _ => pure (.ok ())
  | .error e =>
    let e := Error.kube e
    pure (.error (if e.isConflict then .conflict (.modified record.name) else e))

/-- Deletes a request. -/
def delete (name : String) : Work (Except Error Unit) := do
  match ← Work.request .management (ApiRequest.delete records name)
      (ApiResponse.deletion Record.decode) with
  | .ok () => pure (.ok ())
  | .error e =>
    let e := Error.kube e
    pure (if e.isNotFound then .ok () else .error e)

end EtcdBackup.RecordStore
