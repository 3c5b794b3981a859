import EtcdBackup.Crd.Definition
import EtcdBackup.Proofs.Crd.WrittenSchema
import EtcdBackup.Proofs.Record.RoundTrip

/-!
# What is stored conforms to the definition

The API server checks what it stores against the schema in the definition of the resource, and drops
members that the schema does not know. The schema and the forms on the wire are written down apart
from each other. Every specification and every status conforms all the same
(`Spec.conforms_encode`, `Status.conforms_encode`), so nothing that is written gets lost
(`stored_as_written`).
-/

set_option autoImplicit false
set_option relaxedAutoImplicit false

namespace EtcdBackup

open Crd

namespace Schema

variable {n : Notes} {properties : List (String × Schema)} {required : List String}
  {fields : List (String × Json)}

/-- The properties have one of the name that the value conforms to. -/
def Holds (properties : List (String × Schema)) (e : String × Json) : Prop :=
  ∃ s, Keyed.find? e.1 properties = some s ∧ s.conforms e.2 = true

/-- An object conforms if each of its members does and the required ones are there. -/
theorem conforms_ofFields (known : ∀ e ∈ fields, Holds properties e)
    (present : ∀ key ∈ required, ((Json.ofFields fields).get? key).isSome) :
    (object n properties required).conforms (Json.ofFields fields) = true := by
  refine conforms_object_iff.2
    ⟨fun e he ↦ known e (Keyed.mem_of_mem_ofList he), fun key hkey ↦ ?_⟩
  obtain ⟨value, hvalue⟩ := Option.isSome_iff_exists.1 (present key hkey)
  exact ⟨(key, value), Keyed.mem_of_find? hvalue, rfl⟩

theorem holds_optionalMember {α : Type} {key : String} {encode : α → Json} {x : Option α}
    {s : Schema} (known : Keyed.find? key properties = some s)
    (h : ∀ a, s.conforms (encode a) = true) :
    ∀ e ∈ Json.optionalMember key encode x, Holds properties e := by
  cases x with
  | none => exact List.forall_mem_nil _
  | some a => exact List.forall_mem_singleton.2 ⟨s, known, h a⟩

theorem conforms_count (text format : String) (k : Nat) :
    (count text format).conforms (Json.ofNat k) = true := by
  simp [count, conforms, Json.ofNat, Json.isNull, Json.asInt?]

theorem conforms_text_iff {format : Option String} {choices : List String} {value : String} :
    (text n format choices).conforms (.string value) = true ↔ choices = [] ∨ value ∈ choices := by
  simp [conforms, Json.isNull, Json.asString?]

/-- Any text conforms where there are no choices. -/
theorem conforms_text (format : Option String) (value : String) :
    (text n format []).conforms (.string value) = true :=
  conforms_text_iff.2 (.inl rfl)

end Schema

open Schema

/-! ### Statuses -/

theorem InstanceState.text_mem_all (state : InstanceState) : state.text ∈ all.map (·.text) := by
  cases state <;> decide

theorem Phase.wireName_mem_all (phase : Phase) : phase.wireName ∈ all.map (·.wireName) := by
  cases phase <;> decide

theorem SubStatus.conforms_encode (s : SubStatus) (version : Datastore) :
    (subStatusSchema version).conforms s.encode = true := by
  refine conforms_ofFields ?_ (List.forall_mem_nil _)
  simp only [List.forall_mem_append, List.forall_mem_cons]
  exact ⟨⟨⟨⟨⟨⟨_, rfl, conforms_text_iff.2 (.inr s.state.text_mem_all)⟩,
    ⟨_, rfl, conforms_count _ _ _⟩, List.forall_mem_nil _⟩,
    holds_optionalMember rfl fun _ ↦ conforms_text _ _⟩,
    holds_optionalMember rfl fun _ ↦ conforms_text _ _⟩,
    ⟨_, rfl, conforms_text _ _⟩, ⟨_, rfl, conforms_count _ _ _⟩, ⟨_, rfl, conforms_count _ _ _⟩,
    ⟨_, rfl, conforms_count _ _ _⟩, ⟨_, rfl, conforms_count _ _ _⟩, List.forall_mem_nil _⟩,
    holds_optionalMember rfl fun _ ↦ conforms_text _ _⟩

theorem InstanceStatus.conforms_encode (s : InstanceStatus) :
    instanceSchema.conforms s.encode = true := by
  have named : ∀ key ∈ ["name"], (s.encode.get? key).isSome := by
    rw [List.forall_mem_singleton, s.get?_encode.1]
    rfl
  refine conforms_ofFields ?_ named
  simp only [List.forall_mem_append, List.forall_mem_cons]
  exact ⟨⟨⟨⟨⟨_, rfl, conforms_text _ _⟩, List.forall_mem_nil _⟩,
    holds_optionalMember rfl fun _ ↦ conforms_text _ _⟩,
    holds_optionalMember rfl fun sub ↦ sub.conforms_encode .v2⟩,
    holds_optionalMember rfl fun sub ↦ sub.conforms_encode .v3⟩

/-- The entries conform whatever their keys are. -/
theorem Status.conforms_encodeInstances (n : Notes) (m : Keyed InstanceStatus) :
    (Schema.map n instanceSchema).conforms (encodeInstances m) = true := by
  refine conforms_map_iff.2 fun e he ↦ ?_
  obtain ⟨entry, -, rfl⟩ := List.mem_map.1 he
  exact entry.2.conforms_encode

theorem Status.conforms_encode (s : Status) : statusSchema.conforms s.encode = true := by
  refine conforms_ofFields ?_ (List.forall_mem_nil _)
  simp only [List.forall_mem_append, List.forall_mem_cons]
  refine ⟨⟨⟨⟨⟨⟨_, rfl, conforms_text_iff.2 (.inr s.phase.wireName_mem_all)⟩, List.forall_mem_nil _⟩,
    holds_optionalMember rfl fun _ ↦ conforms_text _ _⟩,
    holds_optionalMember rfl fun _ ↦ conforms_text _ _⟩, ?_⟩,
    holds_optionalMember rfl fun _ ↦ conforms_text _ _⟩
  split
  · exact List.forall_mem_nil _
  · exact List.forall_mem_singleton.2 ⟨_, rfl, conforms_encodeInstances _ _⟩

/-! ### Specifications -/

theorem Spec.conforms_encode (s : Spec) : specSchema.conforms s.encode = true := by
  have guests (n : Notes) : (Schema.boolean n).conforms (.bool s.guestBackup) = true := by
    simp [conforms, Json.asBool?]
  refine conforms_ofFields ?_ (List.forall_mem_nil _)
  simp only [List.forall_mem_append, List.forall_mem_cons]
  refine ⟨⟨⟨⟨⟨_, rfl, guests _⟩, List.forall_mem_nil _⟩, ?_⟩,
    holds_optionalMember rfl fun _ ↦ conforms_text _ _⟩,
    holds_optionalMember rfl fun _ ↦ conforms_text _ _⟩
  split
  · exact List.forall_mem_nil _
  · refine List.forall_mem_singleton.2 ⟨_, rfl, conforms_list_iff.2 fun j hj ↦ ?_⟩
    obtain ⟨name, -, rfl⟩ := List.mem_map.1 hj
    exact conforms_text _ _

/-! ### The definition -/

namespace Crd

theorem hasDistinctKeys_specSchema : specSchema.HasDistinctKeys := by
  refine .object _ _ (by decide) ?_
  simp only [List.forall_mem_cons]
  exact ⟨.boolean _, .list _ (.text _ _ _), .text _ _ _, .text _ _ _, List.forall_mem_nil _⟩

theorem hasDistinctKeys_subStatusSchema (version : Datastore) :
    (subStatusSchema version).HasDistinctKeys := by
  refine .object _ _ (by decide) ?_
  simp only [List.forall_mem_cons]
  exact ⟨.text _ _ _, .natural _ _, .text _ _ _, .text _ _ _, .text _ _ _, .natural _ _,
    .natural _ _, .natural _ _, .natural _ _, .text _ _ _, List.forall_mem_nil _⟩

theorem hasDistinctKeys_statusSchema : statusSchema.HasDistinctKeys := by
  have entries : instanceSchema.HasDistinctKeys := by
    refine .object _ _ (by decide) ?_
    simp only [List.forall_mem_cons]
    exact ⟨.text _ _ _, .text _ _ _, hasDistinctKeys_subStatusSchema .v2,
      hasDistinctKeys_subStatusSchema .v3, List.forall_mem_nil _⟩
  refine .object _ _ (by decide) ?_
  simp only [List.forall_mem_cons]
  exact ⟨.text _ _ _, .text _ _ _, .text _ _ _, .map _ entries, .text _ _ _, List.forall_mem_nil _⟩

/-- The schemas that a definition has for the versions of its resource. -/
def openApiSchemas (definition : Json) : List Json :=
  ((definition.path ["spec", "versions"]).asArray?.getD []).map
    (·.path ["schema", "openAPIV3Schema"])

theorem openApiSchemas_definition : openApiSchemas definition = [recordSchema.encode] := by
  simp [openApiSchemas, definition, version, Json.path, Json.getD, Json.get?_ofFields, Keyed.find?,
    Json.asArray?]

theorem path_recordSchema :
    recordSchema.encode.path ["properties", "spec"] = specSchema.encode ∧
      recordSchema.encode.path ["properties", "status"] = statusSchema.encode := by
  simp [recordSchema, encode, encodeProperties, Json.path, Json.getD, Json.get?_ofFields,
    Keyed.find?]

/-- The only schema in the definition admits every specification and every status as it is written,
and what the API server stores of them is read back as the same value. -/
theorem stored_as_written :
    ∃ schema, openApiSchemas definition = [schema] ∧
      schema.path ["properties", "spec"] = specSchema.encode ∧
      schema.path ["properties", "status"] = statusSchema.encode ∧
      (∀ spec : Spec, Admits (schema.path ["properties", "spec"]) spec.encode ∧
        specSchema.prune spec.encode = spec.encode ∧
        Spec.decode (specSchema.prune spec.encode) = .ok spec) ∧
      ∀ status : Status, Admits (schema.path ["properties", "status"]) status.encode ∧
        statusSchema.prune status.encode = status.encode ∧
        Status.decode (statusSchema.prune status.encode) = .ok status := by
  obtain ⟨hspec, hstatus⟩ := path_recordSchema
  refine ⟨_, openApiSchemas_definition, hspec, hstatus, fun spec ↦ ?_, fun status ↦ ?_⟩
  · have pruned := prune_eq_of_conforms spec.conforms_encode
    rw [hspec, pruned]
    exact ⟨(admits_encode_iff hasDistinctKeys_specSchema _).2 spec.conforms_encode, rfl,
      spec.decode_encode⟩
  · have pruned := prune_eq_of_conforms status.conforms_encode
    rw [hstatus, pruned]
    exact ⟨(admits_encode_iff hasDistinctKeys_statusSchema _).2 status.conforms_encode, rfl,
      status.decode_encode⟩

/-- A member that the schema does not know would be dropped. -/
example : statusSchema.prune (.object [("phase", .string "Pending"), ("status", .string "")]) =
    .object [("status", .string "")] := by
  rfl

end Crd

end EtcdBackup
