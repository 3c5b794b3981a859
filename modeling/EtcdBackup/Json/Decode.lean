import EtcdBackup.Json.Printer
import EtcdBackup.Text.Debug
import EtcdBackup.Time.Parser
import EtcdBackup.Time.Printer

/-!
# Typed reading of JSON values

A `Decoder α` reads a value of `α` off a JSON value or names the first fault. Structures are read
by a list of `Fields`: from an object, whose members are visited in the order of their keys and
may stand in any number besides, or from an array in the order of the fields. A field has a value
to take when it is absent, or its absence is a fault.
-/

set_option autoImplicit false
set_option relaxedAutoImplicit false

namespace EtcdBackup

/-- Why a JSON value does not have the wanted form. -/
inductive DecodeError
  | invalidType (found : Json) (expected : String)
  | invalidValue (found : Json) (expected : String)
  | invalidLength (length : Nat) (expected : String)
  | unknownVariant (name : String) (variants : List String)
  | missingField (key : String)
  | time (fault : TimeError)
  | text (message : String)

/-- How a value is named in messages. -/
def Json.describe : Json → String
  | .null => "null"
  | .bool true => "boolean `true`"
  | .bool false => "boolean `false`"
  | .number (.int n) => s!"integer `{n}`"
  | .number n => s!"floating point `{n.text}`"
  | .string s => s!"string {Text.debug s}"
  | .array _ => "sequence"
  | .object _ => "map"

namespace DecodeError

/-- A list of alternatives. -/
def alternatives (names : List String) : String :=
  match names with
  | [] => "there are no variants"
  | [a] => s!"expected `{a}`"
  | [a, b] => s!"expected `{a}` or `{b}`"
  | names => "expected one of " ++ String.intercalate ", " (names.map fun n ↦ s!"`{n}`")

/-- The wording of a fault. -/
def message : DecodeError → String
  | .invalidType found expected => s!"invalid type: {found.describe}, expected {expected}"
  | .invalidValue found expected => s!"invalid value: {found.describe}, expected {expected}"
  | .invalidLength n expected => s!"invalid length {n}, expected {expected}"
  | .unknownVariant name variants => s!"unknown variant `{name}`, {alternatives variants}"
  | .missingField key => s!"missing field `{key}`"
  | .time fault => fault.message
  | .text message => message

end DecodeError

/-- Reading a value of `α` off a JSON value. -/
abbrev Decoder (α : Type) : Type := Json → Except DecodeError α

namespace Decoder

variable {α β : Type}

/-- The value itself. -/
def json : Decoder Json := .ok

/-- A truth value. -/
def bool : Decoder Bool
  | .bool b => .ok b
  | j => .error (.invalidType j "a boolean")

/-- A text. -/
def string : Decoder String
  | .string s => .ok s
  | j => .error (.invalidType j "a string")

/-- A whole number from `low` to `high`. -/
def integer (name : String) (low high : Int) : Decoder Int
  | .number (.int n) =>
    if low ≤ n ∧ n ≤ high then .ok n else .error (.invalidValue (.number (.int n)) name)
  | j => .error (.invalidType j name)

/-- A word of 16 bits. -/
def uint16 : Decoder UInt16 := fun j ↦
  (integer "u16" 0 (UInt16.size - 1) j).map fun n ↦ UInt16.ofNat n.toNat

/-- A word of 32 bits. -/
def uint32 : Decoder UInt32 := fun j ↦
  (integer "u32" 0 (UInt32.size - 1) j).map fun n ↦ UInt32.ofNat n.toNat

/-- A word of 64 bits. -/
def uint64 : Decoder UInt64 := fun j ↦
  (integer "u64" 0 (UInt64.size - 1) j).map fun n ↦ UInt64.ofNat n.toNat

/-- A signed number of 64 bits. -/
def int64 : Decoder Int := integer "i64" Int64.minValue.toInt Int64.maxValue.toInt

/-- A time. -/
def instant : Decoder Instant
  | .string s => (Instant.parse s).mapError .time
  | j => .error (.invalidType j "an RFC 3339 formatted date and time string")

/-- Null, or a value. -/
def option (decode : Decoder α) : Decoder (Option α)
  | .null => .ok none
  | j => (decode j).map some

/-- The values of a list, up to the first fault. -/
def each (decode : Decoder α) : List Json → Except DecodeError (List α)
  | [] => .ok []
  | item :: rest => do
    let a ← decode item
    let others ← each decode rest
    .ok (a :: others)

/-- An array. -/
def list (decode : Decoder α) : Decoder (List α)
  | .array items => each decode items
  | j => .error (.invalidType j "a sequence")

/-- The values of members, up to the first fault. -/
def eachMember (decode : Decoder α) :
    List (String × Json) → Except DecodeError (List (String × α))
  | [] => .ok []
  | (key, value) :: rest => do
    let a ← decode value
    let others ← eachMember decode rest
    .ok ((key, a) :: others)

/-- An object with values of one kind. -/
def keyed (decode : Decoder α) : Decoder (Keyed α)
  | .object members => (eachMember decode members).map Keyed.ofList
  | j => .error (.invalidType j "a map")

/-- The name of a variant without content. -/
def variant (names : List String) (ofName? : String → Option α) : Decoder α
  | .string s => named s
  | .object [(name, content)] => do
    let a ← named name
    if content.isNull then .ok a else .error (.invalidType content "unit")
  | .object members => .error (.invalidValue (.object members) "map with a single key")
  | j => .error (.invalidType j "string or map")
where
  named (s : String) : Except DecodeError α :=
    match ofName? s with
    | some a => .ok a
    | none => .error (.unknownVariant s names)

end Decoder

/-- The fields of a structure, for reading them off an object or an array. -/
structure Fields (α : Type) where
  /-- The keys of the fields in their order. -/
  keys : List String
  /-- The fault of a value under a key, if the key is that of a field. -/
  fault? : String → Json → Option DecodeError
  /-- The fields of an object whose values have no fault. -/
  ofMembers : List (String × Json) → Except DecodeError α
  /-- The fields at the front of an array, with the items left over; the first argument words
  the expected length, the second counts the items taken. -/
  ofItems : String → Nat → List Json → Except DecodeError (α × Nat × List Json)

namespace Fields

variable {α β : Type}

/-- No field. -/
def start (a : α) : Fields α :=
  ⟨[], fun _ _ ↦ none, fun _ ↦ .ok a, fun _ n items ↦ .ok (a, n, items)⟩

/-- Adds a field; `absent` says what its absence means in an object, and `short` in an array. -/
def field (fs : Fields (β → α)) (key : String) (decode : Decoder β)
    (absent : Except DecodeError β) (short : Option β) : Fields α where
  keys := fs.keys ++ [key]
  fault? k j :=
    if k = key then
      match decode j with
      | .ok _ => none
      | .error e => some e
    else fs.fault? k j
  ofMembers members := do
    let f ← fs.ofMembers members
    match Keyed.find? key members with
    | some j => (decode j).map f
    | none => absent.map f
  ofItems expected n items := do
    let (f, n, items) ← fs.ofItems expected n items
    match items with
    | item :: rest => (decode item).map fun b ↦ (f b, n + 1, rest)
    | [] =>
      match short with
      | some b => .ok (f b, n, [])
      | none => .error (.invalidLength n expected)

/-- Adds a field that has to be there. -/
def required (fs : Fields (β → α)) (key : String) (decode : Decoder β) : Fields α :=
  fs.field key decode (.error (.missingField key)) none

/-- Adds a field that may be absent. -/
def default (fs : Fields (β → α)) (key : String) (decode : Decoder β) (value : β) : Fields α :=
  fs.field key decode (.ok value) (some value)

/-- Adds a field that an object may leave out and an array may not. -/
def optional (fs : Fields (Option β → α)) (key : String) (decode : Decoder β) : Fields α :=
  fs.field key (Decoder.option decode) (.ok none) none

/-- Adds a field that is read and not kept. -/
def check (fs : Fields α) (key : String) (decode : Decoder β) : Fields α :=
  let kept : Fields (Unit → α) :=
    ⟨fs.keys, fs.fault?, fun members ↦ (fs.ofMembers members).map fun a _ ↦ a,
      fun expected n items ↦
        (fs.ofItems expected n items).map fun (a, n, rest) ↦ (fun _ ↦ a, n, rest)⟩
  kept.default key (fun j ↦ (decode j).map fun _ ↦ ()) ()

/-- Adds fields of one kind that are read and not kept. -/
def checkAll (fs : Fields α) (keys : List String) (decode : Decoder β) : Fields α :=
  keys.foldl (fun fs key ↦ fs.check key decode) fs

/-- The first fault of the members, in their order. -/
def firstFault (fs : Fields α) : List (String × Json) → Option DecodeError
  | [] => none
  | (key, value) :: rest =>
    match fs.fault? key value with
    | some e => some e
    | none => fs.firstFault rest

/-- The structure of an object. -/
def decodeMembers (fs : Fields α) (members : List (String × Json)) : Except DecodeError α :=
  match fs.firstFault members with
  | some e => .error e
  | none => fs.ofMembers members

/-- A structure that is an object or an array. -/
def decode (name : String) (fs : Fields α) : Decoder α
  | .object members => fs.decodeMembers members
  | .array items => do
    let expected := s!"struct {name} with {fs.keys.length} elements"
    let (a, _, rest) ← fs.ofItems expected 0 items
    if rest.isEmpty then .ok a
    else .error (.invalidLength items.length "fewer elements in array")
  | j => .error (.invalidType j s!"struct {name}")

/-- A structure that is an object only. -/
def decodeObject (expected : String) (fs : Fields α) : Decoder α
  | .object members => fs.decodeMembers members
  | j => .error (.invalidType j expected)

end Fields

end EtcdBackup
