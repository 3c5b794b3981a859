import EtcdBackup.Bytes

/-!
# Hexadecimal text

Bytes as text, two hexadecimal digits for each.
-/

set_option autoImplicit false
set_option relaxedAutoImplicit false

namespace EtcdBackup.Hex

/-- The lower-case digits of bytes. -/
def encode (bs : Bytes) : String :=
  String.ofList (bs.flatMap fun b ↦ [Nat.digitChar (b.toNat / 16), Nat.digitChar (b.toNat % 16)])

/-- The number that a digit stands for. -/
def value (c : Char) : Nat :=
  if c.isDigit then c.toNat - 48 else if c.isUpper then c.toNat - 55 else c.toNat - 87

/-- The bytes of pairs of digits. -/
def decodeChars : List Char → Bytes
  | a :: b :: rest => UInt8.ofNat (16 * value a + value b) :: decodeChars rest
  | _ => []

/-- The bytes that digits spell. -/
def decode (s : String) : Bytes := decodeChars s.toList

end EtcdBackup.Hex
