import EtcdBackup.Json.Basic

/-!
# Schemas of stored objects

A schema says which JSON values a field can hold. The API server refuses values that do not conform
(`Schema.conforms`) and drops members that the schema does not know (`Schema.prune`).
-/

set_option autoImplicit false
set_option relaxedAutoImplicit false

namespace EtcdBackup

/-- What a schema says about a value apart from its type. -/
structure Schema.Notes where
  title : Option String := none
  description : Option String := none
  /-- Null is allowed too. -/
  nullable : Bool := false
  /-- The value that an absent one stands for. -/
  default : Option Json := none
  deriving Inhabited

/-- A schema. -/
inductive Schema
  | boolean (notes : Schema.Notes)
  /-- Text of a format, one of the choices if there are any. -/
  | text (notes : Schema.Notes) (format : Option String) (choices : List String)
  /-- A whole number that is not negative. -/
  | natural (notes : Schema.Notes) (format : String)
  | list (notes : Schema.Notes) (items : Schema)
  /-- An object with known members, some of which have to be there. -/
  | object (notes : Schema.Notes) (properties : List (String × Schema)) (required : List String)
  /-- An object with any members of one type. -/
  | map (notes : Schema.Notes) (values : Schema)
  deriving Inhabited

namespace Schema

/-- What a schema says about a value apart from its type. -/
def notes : Schema → Notes
  | .boolean n | .text n _ _ | .natural n _ | .list n _ | .object n _ _ | .map n _ => n

/-- The members that describe a value apart from its type. -/
def Notes.members (n : Notes) : List (String × Json) :=
  (n.title.map fun s ↦ ("title", Json.string s)).toList ++
    (n.description.map fun s ↦ ("description", Json.string s)).toList ++
    (if n.nullable then [("nullable", .bool true)] else []) ++
    (n.default.map fun j ↦ ("default", j)).toList

/-- The smallest number that is not negative, as a double. -/
def zero : Json := .number (.float false ⟨0, 0⟩)

mutual

/-- The written form of a schema. -/
def encode : Schema → Json
  | .boolean n => Json.ofFields (n.members ++ [("type", .string "boolean")])
  | .text n format choices =>
    Json.ofFields (n.members ++ [("type", .string "string")] ++
      (format.map fun s ↦ ("format", Json.string s)).toList ++
      (if choices.isEmpty then [] else [("enum", .array (choices.map .string))]))
  | .natural n format =>
    Json.ofFields (n.members ++
      [("type", .string "integer"), ("format", .string format), ("minimum", zero)])
  | .list n items =>
    Json.ofFields (n.members ++ [("type", .string "array"), ("items", items.encode)])
  | .object n properties required =>
    Json.ofFields (n.members ++
      [("type", .string "object"), ("properties", Json.ofFields (encodeProperties properties))] ++
      (if required.isEmpty then [] else [("required", .array (required.map .string))]))
  | .map n values =>
    Json.ofFields (n.members ++
      [("type", .string "object"), ("additionalProperties", values.encode)])

/-- The written forms of the schemas of members. -/
def encodeProperties : List (String × Schema) → List (String × Json)
  | [] => []
  | (key, s) :: rest => (key, s.encode) :: encodeProperties rest

end

mutual

/-- Whether a value conforms to a schema, the formats of texts aside. -/
def conforms : Schema → Json → Bool
  | .boolean n, j => (n.nullable && j.isNull) || j.asBool?.isSome
  | .text n _ choices, j =>
    (n.nullable && j.isNull) || j.asString?.any fun s ↦ choices.isEmpty || choices.contains s
  | .natural n _, j => (n.nullable && j.isNull) || j.asInt?.any fun i ↦ 0 ≤ i
  | .list n items, j => (n.nullable && j.isNull) || j.asArray?.any fun js ↦ js.all items.conforms
  | .object n properties required, j =>
    (n.nullable && j.isNull) || j.asObject?.any fun members ↦
      (members.all fun (key, value) ↦ memberConforms properties key value) &&
        required.all fun key ↦ members.any (·.1 = key)
  | .map n values, j =>
    (n.nullable && j.isNull) || j.asObject?.any fun members ↦
      members.all fun (_, value) ↦ values.conforms value

/-- Whether a member is known and its value conforms. -/
def memberConforms : List (String × Schema) → String → Json → Bool
  | [], _, _ => false
  | (k, s) :: rest, key, value =>
    if k = key then s.conforms value else memberConforms rest key value

end

mutual

/-- A value without the members that the schema does not know. -/
def prune : Schema → Json → Json
  | .list _ items, .array js => .array (js.map items.prune)
  | .object _ properties _, .object members =>
    .object (members.filterMap fun (key, value) ↦
      (pruneMember properties key value).map fun value ↦ (key, value))
  | .map _ values, .object members =>
    .object (members.map fun (key, value) ↦ (key, values.prune value))
  | _, j => j

/-- The value of a member that is known. -/
def pruneMember : List (String × Schema) → String → Json → Option Json
  | [], _, _ => none
  | (k, s) :: rest, key, value =>
    if k = key then some (s.prune value) else pruneMember rest key value

end

end Schema

end EtcdBackup
