import EtcdBackup.Text.Blank
import EtcdBackup.Text.Utf8

/-!
# Percent signs in addresses

In addresses a byte may be written as a percent sign with two hexadecimal digits. In the query of
an address `Percent.encodeForm` writes all but letters, digits and four signs so, and a blank as a
plus sign.
-/

set_option autoImplicit false
set_option relaxedAutoImplicit false

namespace EtcdBackup.Percent

/-- The value of a hexadecimal digit. -/
def hexValue? (b : UInt8) : Option UInt8 :=
  if 48 ≤ b ∧ b ≤ 57 then some (b - 48)
  else if 65 ≤ b ∧ b ≤ 70 then some (b - 55)
  else if 97 ≤ b ∧ b ≤ 102 then some (b - 87)
  else none

/-- Bytes with those restored that stand behind percent signs. -/
def decodeBytes : List UInt8 → List UInt8
  | 37 :: high :: low :: rest =>
    match hexValue? high, hexValue? low with
    | some h, some l => (h * 16 + l) :: decodeBytes rest
    | _, _ => 37 :: decodeBytes (high :: low :: rest)
  | b :: rest => b :: decodeBytes rest
  | [] => []
termination_by bytes => bytes.length

/-- The text behind the percent signs of an address. -/
def decode (text : String) : String := Utf8.lossy (decodeBytes (Utf8.encode text))

/-- The text behind the percent and plus signs of a query. -/
def decodeForm (text : String) : String :=
  decode (String.ofList (text.toList.map fun c ↦ if c = '+' then ' ' else c))

/-- One hexadecimal digit, in capitals. -/
def hexDigit (n : Nat) : Char := if n < 10 then Char.ofNat (48 + n) else Char.ofNat (55 + n)

/-- Whether a byte stands for itself in a query. -/
def isPlain (b : UInt8) : Bool :=
  (48 ≤ b && b ≤ 57) || (65 ≤ b && b ≤ 90) || (97 ≤ b && b ≤ 122) ||
    b = 42 || b = 45 || b = 46 || b = 95

/-- A text as part of a query. -/
def encodeForm (text : String) : String :=
  String.ofList <| (Utf8.encode text).flatMap fun b ↦
    if isPlain b then [Char.ofNat b.toNat]
    else if b = 32 then ['+']
    else ['%', hexDigit (b.toNat / 16), hexDigit (b.toNat % 16)]

end EtcdBackup.Percent
