import EtcdBackup.Crd.Schema
import EtcdBackup.Proofs.Json.MergePatch
import EtcdBackup.Proofs.Record.Codec
import Mathlib.Algebra.Order.Field.Rat

/-!
# Schemas as they are written

The API server knows a schema only in its written form. `Admits` says what such a form asks of a
value: its type, the choices of a text, the least whole number, the schema of each item, and of the
members of an object that all are known and that the required ones are there. The check of a schema
is exactly that of its written form (`admits_encode_iff`), and a value that passes it loses nothing
when unknown members are dropped (`prune_eq_of_conforms`).
-/

set_option autoImplicit false
set_option relaxedAutoImplicit false

namespace EtcdBackup

/-- The value of a number. -/
def Json.Number.value : Json.Number → Rat
  | .int n => n
  | .float negative ⟨digits, exponent⟩ => (if negative then -1 else 1) * digits * 10 ^ exponent

namespace Schema

/-! ### What a written schema says -/

/-- The written schema of the member under a key: that of the property of this key, or else the one
of all other members. -/
def member? (schema : Json) (key : String) : Option Json :=
  ((schema.getD "properties").get? key).or (schema.get? "additionalProperties")

/-- A value conforms to a written schema, the formats of texts aside. -/
inductive Admits : Json → Json → Prop
  | null {schema : Json} (nullable : schema.get? "nullable" = some (.bool true)) :
    Admits schema .null
  | boolean {schema : Json} {value : Bool}
    (type : schema.get? "type" = some (.string "boolean")) : Admits schema (.bool value)
  | text {schema : Json} {value : String}
    (type : schema.get? "type" = some (.string "string"))
    (chosen : ∀ choices, schema.get? "enum" = some (.array choices) → .string value ∈ choices) :
    Admits schema (.string value)
  | integer {schema : Json} {n : Int}
    (type : schema.get? "type" = some (.string "integer"))
    (minimum : ∀ least, schema.get? "minimum" = some (.number least) → least.value ≤ n) :
    Admits schema (.number (.int n))
  | array {schema : Json} {items : List Json}
    (type : schema.get? "type" = some (.string "array"))
    (inside : ∀ j ∈ items, Admits (schema.getD "items") j) : Admits schema (.array items)
  | object {schema : Json} {members : List (String × Json)}
    (type : schema.get? "type" = some (.string "object"))
    (known : ∀ e ∈ members, (member? schema e.1).isSome)
    (inside : ∀ e ∈ members, ∀ s, member? schema e.1 = some s → Admits s e.2)
    (present : ∀ keys, schema.get? "required" = some (.array keys) →
      ∀ key, .string key ∈ keys → ∃ e ∈ members, e.1 = key) : Admits schema (.object members)

/-! ### Schemas by their properties -/

/-- Induction on a schema. -/
theorem induct {P : Schema → Prop} (boolean : ∀ n, P (.boolean n))
    (text : ∀ n format choices, P (.text n format choices))
    (natural : ∀ n format, P (.natural n format))
    (list : ∀ n items, P items → P (.list n items))
    (object : ∀ n properties required, (∀ e ∈ properties, P e.2) →
      P (.object n properties required))
    (map : ∀ n values, P values → P (.map n values)) (s : Schema) : P s :=
  s.rec (motive_2 := fun properties ↦ ∀ e ∈ properties, P e.2) (motive_3 := fun e ↦ P e.2)
    boolean text natural list object map (List.forall_mem_nil _)
    (fun _ _ head tail ↦ List.forall_mem_cons.2 ⟨head, tail⟩) (fun _ _ inside ↦ inside)

theorem memberConforms_eq (properties : List (String × Schema)) (key : String) (value : Json) :
    memberConforms properties key value =
      (Keyed.find? key properties).any fun s ↦ s.conforms value := by
  induction properties with
  | nil => rfl
  | cons head rest ih =>
    rw [memberConforms, Keyed.find?, ih]
    split <;> rfl

theorem pruneMember_eq (properties : List (String × Schema)) (key : String) (value : Json) :
    pruneMember properties key value = (Keyed.find? key properties).map fun s ↦ s.prune value := by
  induction properties with
  | nil => rfl
  | cons head rest ih =>
    rw [pruneMember, Keyed.find?, ih]
    split <;> rfl

theorem encodeProperties_eq (properties : List (String × Schema)) :
    encodeProperties properties = properties.map fun e ↦ (e.1, e.2.encode) := by
  induction properties with
  | nil => rfl
  | cons head rest ih => rw [encodeProperties, ih, List.map_cons]

/-- No object has two properties under one key. -/
inductive HasDistinctKeys : Schema → Prop
  | boolean (n : Notes) : HasDistinctKeys (.boolean n)
  | text (n : Notes) (format : Option String) (choices : List String) :
    HasDistinctKeys (.text n format choices)
  | natural (n : Notes) (format : String) : HasDistinctKeys (.natural n format)
  | list (n : Notes) {items : Schema} (inside : items.HasDistinctKeys) :
    HasDistinctKeys (.list n items)
  | object (n : Notes) {properties : List (String × Schema)} (required : List String)
    (distinct : (properties.map (·.1)).Nodup)
    (inside : ∀ e ∈ properties, HasDistinctKeys e.2) :
    HasDistinctKeys (.object n properties required)
  | map (n : Notes) {values : Schema} (inside : values.HasDistinctKeys) :
    HasDistinctKeys (.map n values)

/-! ### The check of a schema -/

theorem conforms_list_iff {n : Notes} {items : Schema} {js : List Json} :
    (list n items).conforms (.array js) = true ↔ ∀ j ∈ js, items.conforms j = true := by
  simp [conforms, Json.isNull, Json.asArray?]

theorem conforms_object_iff {n : Notes} {properties : List (String × Schema)}
    {required : List String} {members : List (String × Json)} :
    (object n properties required).conforms (.object members) = true ↔
      (∀ e ∈ members, ∃ s, Keyed.find? e.1 properties = some s ∧ s.conforms e.2 = true) ∧
        ∀ key ∈ required, ∃ e ∈ members, e.1 = key := by
  simp [conforms, Json.isNull, Json.asObject?, memberConforms_eq, Option.any_eq_true]

theorem conforms_map_iff {n : Notes} {values : Schema} {members : List (String × Json)} :
    (map n values).conforms (.object members) = true ↔
      ∀ e ∈ members, values.conforms e.2 = true := by
  simp [conforms, Json.isNull, Json.asObject?]

/-- A value that conforms to a schema has no members that the schema does not know. -/
theorem prune_eq_of_conforms {s : Schema} {j : Json} (h : s.conforms j = true) :
    s.prune j = j := by
  induction s using induct generalizing j with
  | boolean | text | natural =>
    rw [prune]
    all_goals exact nofun
  | list n items ih =>
    cases j with
    | array js =>
      have hitems := conforms_list_iff.1 h
      rw [prune, List.map_congr_left fun i hi ↦ ih (hitems i hi), List.map_id']
    | null | bool | number | string | object => rfl
  | object n properties required ih =>
    cases j with
    | object members =>
      have hmember (e : String × Json) (he : e ∈ members) :
          ((pruneMember properties e.1 e.2).map fun value ↦ (e.1, value)) = some e := by
        obtain ⟨s, hs, hconforms⟩ := (conforms_object_iff.1 h).1 e he
        rw [pruneMember_eq, hs, Option.map_some, ih _ (Keyed.mem_of_find? hs) hconforms]
        rfl
      rw [prune, List.filterMap_congr hmember, List.filterMap_some]
    | null | bool | number | string | array => rfl
  | map n values ih =>
    cases j with
    | object members =>
      have hvalues := conforms_map_iff.1 h
      rw [prune, List.map_congr_left fun e he ↦ congrArg (Prod.mk e.1) (ih (hvalues e he)),
        List.map_id']
    | null | bool | number | string | array => rfl

/-! ### The check of a written schema -/

section

variable {schema : Json}

@[simp] theorem admits_null_iff : Admits schema .null ↔ schema.get? "nullable" = some (.bool true) :=
  ⟨fun h ↦ by cases h; assumption, .null⟩

@[simp] theorem admits_bool_iff {value : Bool} :
    Admits schema (.bool value) ↔ schema.get? "type" = some (.string "boolean") :=
  ⟨fun h ↦ by cases h; assumption, .boolean⟩

@[simp] theorem admits_string_iff {value : String} :
    Admits schema (.string value) ↔ schema.get? "type" = some (.string "string") ∧
      ∀ choices, schema.get? "enum" = some (.array choices) → .string value ∈ choices := by
  constructor
  · rintro (_ | _ | ⟨type, chosen⟩)
    exact ⟨type, chosen⟩
  · exact fun ⟨type, chosen⟩ ↦ .text type chosen

@[simp] theorem admits_int_iff {n : Int} :
    Admits schema (.number (.int n)) ↔ schema.get? "type" = some (.string "integer") ∧
      ∀ least, schema.get? "minimum" = some (.number least) → least.value ≤ n := by
  constructor
  · rintro (_ | _ | _ | ⟨type, minimum⟩)
    exact ⟨type, minimum⟩
  · exact fun ⟨type, minimum⟩ ↦ .integer type minimum

@[simp] theorem not_admits_float {negative : Bool} {magnitude : Decimal} :
    ¬Admits schema (.number (.float negative magnitude)) := nofun

@[simp] theorem admits_array_iff {items : List Json} :
    Admits schema (.array items) ↔ schema.get? "type" = some (.string "array") ∧
      ∀ j ∈ items, Admits (schema.getD "items") j := by
  constructor
  · rintro (_ | _ | _ | _ | ⟨type, inside⟩)
    exact ⟨type, inside⟩
  · exact fun ⟨type, inside⟩ ↦ .array type inside

@[simp] theorem admits_object_iff {members : List (String × Json)} :
    Admits schema (.object members) ↔ schema.get? "type" = some (.string "object") ∧
      (∀ e ∈ members, ∃ s, member? schema e.1 = some s ∧ Admits s e.2) ∧
        ∀ keys, schema.get? "required" = some (.array keys) →
          ∀ key, .string key ∈ keys → ∃ e ∈ members, e.1 = key := by
  constructor
  · rintro (_ | _ | _ | _ | _ | ⟨type, known, inside, present⟩)
    refine ⟨type, fun e he ↦ ?_, present⟩
    obtain ⟨s, hs⟩ := Option.isSome_iff_exists.1 (known e he)
    exact ⟨s, hs, inside e he s hs⟩
  · rintro ⟨type, known, present⟩
    refine .object type (fun e he ↦ ?_) (fun e he s hs ↦ ?_) present
    · obtain ⟨s, hs, -⟩ := known e he
      exact Option.isSome_iff_exists.2 ⟨s, hs⟩
    · obtain ⟨s', hs', hadmits⟩ := known e he
      rw [hs] at hs'
      exact Option.some.inj hs' ▸ hadmits

end

/-! ### What a schema is written as -/

theorem Notes.members_eq (n : Notes) : n.members =
    Json.optionalMember "title" .string n.title ++
      Json.optionalMember "description" .string n.description ++
        (if n.nullable then [("nullable", .bool true)] else []) ++
          Json.optionalMember "default" id n.default := by
  obtain ⟨title, description, nullable, default⟩ := n
  cases title <;> cases description <;> cases default <;> rfl

/-- The name of the type in a written schema. -/
def typeName : Schema → String
  | .boolean _ => "boolean"
  | .text _ _ _ => "string"
  | .natural _ _ => "integer"
  | .list _ _ => "array"
  | .object _ _ _ | .map _ _ => "object"

/-- Texts in a written schema, which are left out if there are none. -/
def textsMember (key : String) (texts : List String) : List (String × Json) :=
  Json.optionalMember key (fun texts ↦ .array (texts.map .string))
    (if texts.isEmpty then none else some texts)

/-- What a written schema says beside its notes and its type. -/
def details : Schema → List (String × Json)
  | .boolean _ => []
  | .text _ format choices =>
    Json.optionalMember "format" .string format ++ textsMember "enum" choices
  | .natural _ format => [("format", .string format), ("minimum", zero)]
  | .list _ items => [("items", items.encode)]
  | .object _ properties required =>
    ("properties", Json.ofFields (properties.map fun e ↦ (e.1, e.2.encode))) ::
      textsMember "required" required
  | .map _ values => [("additionalProperties", values.encode)]

theorem encode_eq (s : Schema) :
    s.encode = Json.ofFields (s.notes.members ++ ("type", .string s.typeName) :: s.details) := by
  cases s with
  | boolean | natural | list | map => rfl
  | text n format choices =>
    rw [encode, List.append_assoc, List.append_assoc]
    cases format <;> cases choices <;> rfl
  | object n properties required =>
    rw [encode, encodeProperties_eq, List.append_assoc]
    cases required <;> rfl

/-- A title, a description and a default do not count for the check of a value. -/
theorem get?_encode (s : Schema) {key : String} (title : key ≠ "title")
    (description : key ≠ "description") (default : key ≠ "default") :
    s.encode.get? key =
      ((Keyed.find? key s.details.reverse).or
        (if key = "type" then some (.string s.typeName) else none)).or
          (if key = "nullable" ∧ s.notes.nullable then some (.bool true) else none) := by
  rw [encode_eq, Json.get?_ofFields, List.reverse_append, List.reverse_cons, Keyed.find?_append,
    Keyed.find?_append, Notes.members_eq]
  cases hnullable : s.notes.nullable <;>
    simp [Keyed.find?_append, Json.find?_optionalMember, Keyed.find?, title.symm,
      description.symm, default.symm, eq_comm]

theorem get?_encode_type (s : Schema) : s.encode.get? "type" = some (.string s.typeName) := by
  cases s <;>
    simp [get?_encode, details, textsMember, Keyed.find?_append, Json.find?_optionalMember,
      Keyed.find?]

theorem get?_encode_nullable_iff (s : Schema) :
    s.encode.get? "nullable" = some (.bool true) ↔ s.notes.nullable = true := by
  cases s <;>
    simp [get?_encode, details, textsMember, Keyed.find?_append, Json.find?_optionalMember,
      Keyed.find?]

theorem get?_encode_enum_iff {n : Notes} {format : Option String} {choices : List String}
    {written : List Json} :
    (text n format choices).encode.get? "enum" = some (.array written) ↔
      choices ≠ [] ∧ choices.map .string = written := by
  simp [get?_encode, details, textsMember, Keyed.find?_append, Json.find?_optionalMember]

theorem get?_encode_minimum (n : Notes) (format : String) :
    (natural n format).encode.get? "minimum" = some zero := by
  simp [get?_encode, details, Keyed.find?]

theorem getD_encode_items (n : Notes) (items : Schema) :
    (list n items).encode.getD "items" = items.encode := by
  simp [Json.getD, get?_encode, details, Keyed.find?]

theorem get?_encode_required_iff {n : Notes} {properties : List (String × Schema)}
    {required : List String} {written : List Json} :
    (object n properties required).encode.get? "required" = some (.array written) ↔
      required ≠ [] ∧ required.map .string = written := by
  simp [get?_encode, details, textsMember, Keyed.find?_append, Json.find?_optionalMember,
    Keyed.find?]

theorem member?_encode_object {n : Notes} {properties : List (String × Schema)}
    {required : List String} (distinct : (properties.map (·.1)).Nodup) (key : String) :
    member? (object n properties required).encode key =
      (Keyed.find? key properties).map encode := by
  have hproperties : (object n properties required).encode.getD "properties" =
      Json.ofFields (properties.map fun e ↦ (e.1, e.2.encode)) := by
    simp [Json.getD, get?_encode, details, textsMember, Keyed.find?_append,
      Json.find?_optionalMember, Keyed.find?]
  have hothers : (object n properties required).encode.get? "additionalProperties" = none := by
    simp [get?_encode, details, textsMember, Keyed.find?_append, Json.find?_optionalMember,
      Keyed.find?]
  have hkeys : (properties.map fun e ↦ (e.1, e.2.encode)).map (·.1) = properties.map (·.1) := by
    rw [List.map_map]
    rfl
  rw [member?, hproperties, hothers, Option.or_none, Json.get?_ofFields,
    Keyed.find?_reverse (hkeys ▸ distinct)]
  exact Keyed.find?_map _ properties key

theorem member?_encode_map (n : Notes) (values : Schema) (key : String) :
    member? (map n values).encode key = some values.encode := by
  have hproperties : (map n values).encode.get? "properties" = none := by
    simp [get?_encode, details, Keyed.find?]
  have hothers : (map n values).encode.get? "additionalProperties" = some values.encode := by
    simp [get?_encode, details, Keyed.find?]
  rw [member?, Json.getD, hproperties, hothers]
  rfl

/-! ### The check of a schema and that of its written form -/

/-- The name of the type that a value other than null has in a written schema. -/
def typeOf : Json → Option String
  | .null => none
  | .bool _ => some "boolean"
  | .number _ => some "integer"
  | .string _ => some "string"
  | .array _ => some "array"
  | .object _ => some "object"

/-- Null is allowed by the notes alone, and no value of another type is allowed. -/
theorem admits_encode_iff_of_ne {s : Schema} {j : Json} (other : typeOf j ≠ some s.typeName) :
    Admits s.encode j ↔ s.conforms j = true := by
  cases j with
  | null =>
    rw [admits_null_iff, get?_encode_nullable_iff]
    cases s <;>
      simp [conforms, notes, Json.isNull, Json.asBool?, Json.asString?, Json.asInt?, Json.asArray?,
        Json.asObject?]
  | number value =>
    cases s <;> cases value <;>
      simp [get?_encode_type, typeName, typeOf, conforms, Json.isNull, Json.asBool?, Json.asString?,
        Json.asArray?, Json.asObject?] at other ⊢
  | bool | string | array | object =>
    cases s <;>
      simp [get?_encode_type, typeName, typeOf, conforms, Json.isNull, Json.asBool?, Json.asString?,
        Json.asInt?, Json.asArray?, Json.asObject?] at other ⊢

theorem value_le_of_zero_iff (n : Int) :
    (∀ least, some zero = some (.number least) → least.value ≤ n) ↔ 0 ≤ n := by
  have hzero : (Json.Number.float false ⟨0, 0⟩).value = 0 := by simp [Json.Number.value]
  constructor
  · intro h
    have hleast := h _ rfl
    rw [hzero] at hleast
    exact_mod_cast hleast
  · rintro h least hleast
    cases hleast
    rw [hzero]
    exact_mod_cast h

theorem exists_known_iff {n : Notes} {properties : List (String × Schema)}
    {required : List String} (distinct : (properties.map (·.1)).Nodup)
    (same : ∀ e ∈ properties, ∀ j, Admits e.2.encode j ↔ e.2.conforms j = true)
    (e : String × Json) :
    (∃ written, member? (object n properties required).encode e.1 = some written ∧
      Admits written e.2) ↔
        ∃ s, Keyed.find? e.1 properties = some s ∧ s.conforms e.2 = true := by
  rw [member?_encode_object distinct]
  constructor
  · rintro ⟨_, hwritten, hadmits⟩
    obtain ⟨s, hs, rfl⟩ := Option.map_eq_some_iff.1 hwritten
    exact ⟨s, hs, (same _ (Keyed.mem_of_find? hs) _).1 hadmits⟩
  · rintro ⟨s, hs, hconforms⟩
    exact ⟨_, Option.map_eq_some_iff.2 ⟨s, hs, rfl⟩,
      (same _ (Keyed.mem_of_find? hs) _).2 hconforms⟩

theorem forall_required_iff {required : List String} {p : String → Prop} :
    (∀ written : List Json, required ≠ [] ∧ required.map .string = written →
      ∀ key, .string key ∈ written → p key) ↔ ∀ key ∈ required, p key := by
  constructor
  · intro h key hkey
    exact h _ ⟨List.ne_nil_of_mem hkey, rfl⟩ key (List.mem_map_of_mem hkey)
  · rintro h _ ⟨-, rfl⟩ key hkey
    exact h key (by simpa using hkey)

/-- A value conforms to a schema if it conforms to its written form. -/
theorem admits_encode_iff {s : Schema} (distinct : s.HasDistinctKeys) (j : Json) :
    Admits s.encode j ↔ s.conforms j = true := by
  induction s using induct generalizing j with
  | boolean n =>
    cases j with
    | bool value => simp [get?_encode_type, typeName, conforms, Json.asBool?]
    | null | number | string | array | object =>
      exact admits_encode_iff_of_ne (by simp [typeOf, typeName])
  | text n format choices =>
    cases j with
    | string value =>
      simp [get?_encode_type, get?_encode_enum_iff, typeName, conforms, Json.isNull,
        Json.asString?, or_iff_not_imp_left]
    | null | bool | number | array | object =>
      exact admits_encode_iff_of_ne (by simp [typeOf, typeName])
  | natural n format =>
    cases j with
    | number value =>
      cases value with
      | int value =>
        rw [admits_int_iff, get?_encode_type, get?_encode_minimum, value_le_of_zero_iff]
        simp [typeName, conforms, Json.isNull, Json.asInt?]
      | float => simp [conforms, Json.isNull, Json.asInt?]
    | null | bool | string | array | object =>
      exact admits_encode_iff_of_ne (by simp [typeOf, typeName])
  | list n items ih =>
    cases distinct with
    | list _ inside =>
      cases j with
      | array js =>
        rw [admits_array_iff, conforms_list_iff, get?_encode_type, getD_encode_items]
        simp [typeName, ih inside]
      | null | bool | number | string | object =>
        exact admits_encode_iff_of_ne (by simp [typeOf, typeName])
  | object n properties required ih =>
    cases distinct with
    | object _ _ distinct inside =>
      cases j with
      | object members =>
        have same := fun e he ↦ ih e he (inside e he)
        rw [admits_object_iff, conforms_object_iff, get?_encode_type]
        simp only [get?_encode_required_iff, forall_required_iff, exists_known_iff distinct same,
          typeName, true_and]
      | null | bool | number | string | array =>
        exact admits_encode_iff_of_ne (by simp [typeOf, typeName])
  | map n values ih =>
    cases distinct with
    | map _ inside =>
      cases j with
      | object members =>
        have hnone : (map n values).encode.get? "required" = none := by
          simp [get?_encode, details, Keyed.find?]
        rw [admits_object_iff, conforms_map_iff, get?_encode_type, hnone]
        simp [member?_encode_map, typeName, ih inside]
      | null | bool | number | string | array =>
        exact admits_encode_iff_of_ne (by simp [typeOf, typeName])

end Schema

end EtcdBackup
