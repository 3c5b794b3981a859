import EtcdBackup.Json.Basic

/-!
# Walking through JSON values

A function on all values inside a value or on the texts inside it, and the change of one value
that is reached through nested objects.
-/

set_option autoImplicit false
set_option relaxedAutoImplicit false

namespace EtcdBackup.Json

mutual

/-- Applies `f` to the values inside a value from the inside out; `f` is told the key that a value
or the list that it is in stands under. -/
def mapValues (f : String → Json → Json) (key : String) : Json → Json
  | .array items => f key (.array (mapItems f key items))
  | .object members => f key (.object (mapMembers f members))
  | j => f key j

/-- Applies `f` to the items of a list and what is inside them. -/
def mapItems (f : String → Json → Json) (key : String) : List Json → List Json
  | [] => []
  | j :: rest => mapValues f key j :: mapItems f key rest

/-- Applies `f` to the members of an object and what is inside them. -/
def mapMembers (f : String → Json → Json) :
    List (String × Json) → List (String × Json)
  | [] => []
  | (key, j) :: rest => (key, mapValues f key j) :: mapMembers f rest

end

/-- Applies `f` to the texts inside a value; `f` is told the keys that they stand under. -/
def mapTexts (f : String → String → String) : Json → Json :=
  mapValues (fun key j ↦ match j with
    | .string s => .string (f key s)
    | j => j) ""

mutual

/-- The texts inside a value with the keys that they stand under. -/
def texts (key : String) : Json → List (String × String)
  | .string s => [(key, s)]
  | .array items => textsOfItems key items
  | .object members => textsOfMembers members
  | _ => []

/-- The texts inside the items of a list. -/
def textsOfItems (key : String) : List Json → List (String × String)
  | [] => []
  | j :: rest => texts key j ++ textsOfItems key rest

/-- The texts inside the members of an object. -/
def textsOfMembers : List (String × Json) → List (String × String)
  | [] => []
  | (key, j) :: rest => texts key j ++ textsOfMembers rest

end

/-- Changes the value that is reached through nested objects, if there is one. -/
def changeAt (f : Json → Json) : List String → Json → Json
  | [], j => f j
  | key :: rest, .object members =>
    .object (members.map fun (k, j) ↦ if k = key then (k, changeAt f rest j) else (k, j))
  | _ :: _, j => j

end EtcdBackup.Json
