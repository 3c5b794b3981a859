import EtcdBackup.Bytes

/-!
# Poly1305

The authenticator Poly1305: a message is read as the coefficients of a polynomial over the field
with 2¹³⁰ - 5 elements, whose value at a secret point, with a second secret added, is the tag.
-/

set_option autoImplicit false
set_option relaxedAutoImplicit false

namespace EtcdBackup.Poly1305

/-- The size of the field. -/
def prime : Nat := (1 <<< 130) - 5

/-- The bits that a secret point may have. -/
def clamp (n : Nat) : Nat := n &&& 0x0FFFFFFC0FFFFFFC0FFFFFFC0FFFFFFF

/-- The coefficient that a piece of a message stands for; the byte one marks its end. -/
def coefficient (piece : Bytes) : Nat := Bytes.toNumber (piece ++ [1])

/-- The value of the polynomial at a point. -/
def evaluate (point : Nat) (message : Bytes) : Nat :=
  (Bytes.pieces 16 message).foldl (fun sum piece ↦ (sum + coefficient piece) * point % prime) 0

/-- The tag of a message under a key of 32 bytes. -/
def tag (key message : Bytes) : Bytes :=
  let point := clamp (Bytes.toNumber (key.take 16))
  Bytes.ofNumber 16 (evaluate point message + Bytes.toNumber (key.drop 16))

@[simp] theorem length_tag (key message : Bytes) : (tag key message).length = 16 := by
  simp [tag]

end EtcdBackup.Poly1305
