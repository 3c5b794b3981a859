import EtcdBackup.Error
import EtcdBackup.Record.Codec
import EtcdBackup.Target
import EtcdBackup.Text.Base64

/-!
# Secrets and pods

The two types of built-in objects that are read: a secret, whose values are bytes written in
base64, and a pod, of which only the metadata counts.
-/

set_option autoImplicit false
set_option relaxedAutoImplicit false

namespace EtcdBackup

/-- A secret. -/
structure Secret where
  metadata : Metadata := {}
  data : Option (Keyed Bytes) := none
  deriving Inhabited

/-- A pod. -/
structure Pod where
  metadata : Metadata := {}
  deriving Inhabited

namespace Decoder

/-- Bytes in base64. -/
def base64 : Decoder Bytes
  | .string s =>
    match Base64.decode? s with
    | some bytes => .ok bytes
    | none => .error (.text "no base64")
  | j => .error (.invalidType j "a base64-encoded string")

/-- One particular text. -/
def exactly (text : String) : Decoder Unit
  | .string s =>
    if s = text then .ok () else .error (.invalidValue (.string s) text)
  | j => .error (.invalidType j "a string")

end Decoder

namespace Secret

/-- The fields on the wire. -/
def fields : Fields Secret :=
  (Fields.start fun (metadata : Option Metadata) data ↦ (⟨metadata.getD {}, data⟩ : Secret))
    |>.default "metadata" (Decoder.option Metadata.decode) none
    |>.default "data" (Decoder.option (Decoder.keyed Decoder.base64)) none
    |>.check "apiVersion" (Decoder.exactly "v1")
    |>.check "kind" (Decoder.exactly "Secret")
    |>.check "immutable" (Decoder.option Decoder.bool)
    |>.check "stringData" (Decoder.option (Decoder.keyed Decoder.string))
    |>.check "type" (Decoder.option Decoder.string)

/-- Reads a secret. -/
def decode : Decoder Secret := fields.decodeObject "Secret"

/-- The value under a key. -/
def value (s : Secret) (key : String) : Except Error Bytes :=
  match s.data.bind (·.get? key) with
  | some bytes => .ok bytes
  | none => .error (.discovery (.secretKeyMissing (s.metadata.name.getD "") key))

end Secret

namespace Pod

/-- The fields on the wire. -/
def fields : Fields Pod :=
  (Fields.start fun (metadata : Option Metadata) ↦ (⟨metadata.getD {}⟩ : Pod))
    |>.default "metadata" (Decoder.option Metadata.decode) none
    |>.check "apiVersion" (Decoder.exactly "v1")
    |>.check "kind" (Decoder.exactly "Pod")

/-- Reads a pod. -/
def decode : Decoder Pod := fields.decodeObject "Pod"

end Pod

end EtcdBackup
