import EtcdBackup.Decimal.Binary64
import EtcdBackup.Keyed

/-!
# JSON values

Objects list their members in ascending order of the keys, each key once; `Json.ofFields` brings
any list of members into that order, the last of two equal keys winning. Numbers are whole, or
doubles written as the shortest decimal that denotes them.
-/

set_option autoImplicit false
set_option relaxedAutoImplicit false

namespace EtcdBackup

/-- A number: whole between `-2 ^ 63` and `2 ^ 64 - 1`, else a double. -/
inductive Json.Number
  | int (value : Int)
  | float (negative : Bool) (magnitude : Decimal)
  deriving DecidableEq

/-- A JSON value. -/
inductive Json
  | null
  | bool (value : Bool)
  | number (value : Json.Number)
  | string (value : String)
  | array (items : List Json)
  | object (members : List (String × Json))
  deriving Inhabited

namespace Json

/-- The object of a list of members; of two members with one key the later counts. -/
def ofFields (fields : List (String × Json)) : Json := .object (Keyed.ofList fields).entries

/-- A natural number. -/
def ofNat (n : Nat) : Json := .number (.int n)

/-- A whole number. -/
def ofInt (n : Int) : Json := .number (.int n)

/-- A value or null. -/
def ofOption {α : Type} (encode : α → Json) : Option α → Json
  | none => .null
  | some a => encode a

/-- The member of an object under a key. -/
def get? (json : Json) (key : String) : Option Json :=
  match json with
  | .object members => Keyed.find? key members
  | _ => none

/-- The member of an object under a key, null where there is none. -/
def getD (json : Json) (key : String) : Json := (json.get? key).getD .null

/-- The value reached through nested objects, null where the path breaks off. -/
def path (json : Json) (keys : List String) : Json := keys.foldl getD json

/-- The text of a string value. -/
def asString? : Json → Option String
  | .string s => some s
  | _ => none

/-- The value of a truth value. -/
def asBool? : Json → Option Bool
  | .bool b => some b
  | _ => none

/-- The value of a whole number. -/
def asInt? : Json → Option Int
  | .number (.int n) => some n
  | _ => none

/-- The value of a natural number. -/
def asNat? : Json → Option Nat
  | .number (.int (.ofNat n)) => some n
  | _ => none

/-- The items of an array. -/
def asArray? : Json → Option (List Json)
  | .array items => some items
  | _ => none

/-- The members of an object. -/
def asObject? : Json → Option (List (String × Json))
  | .object members => some members
  | _ => none

/-- Whether the value is null. -/
def isNull : Json → Bool
  | .null => true
  | _ => false

end Json

end EtcdBackup
