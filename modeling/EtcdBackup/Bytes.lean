/-!
# Bytes

The content of files and messages is a list of bytes. Here are the numbers that bytes spell with
the lowest byte first, and the pieces that a list is cut into. Writing a number and reading it back
keeps what fits (`Bytes.toNumber_ofNumber`), and the pieces together are the list
(`Bytes.flatten_pieces`).
-/

set_option autoImplicit false
set_option relaxedAutoImplicit false

namespace EtcdBackup

/-- The content of a file, or any other sequence of bytes. -/
abbrev Bytes : Type := List UInt8

namespace Bytes

/-- The number that bytes spell, the lowest byte first. -/
def toNumber : Bytes → Nat
  | [] => 0
  | b :: rest => b.toNat + 256 * toNumber rest

/-- The lowest `count` bytes of a number, the lowest first. -/
def ofNumber : Nat → Nat → Bytes
  | 0, _ => []
  | count + 1, n => UInt8.ofNat n :: ofNumber count (n / 256)

@[simp] theorem length_ofNumber (count n : Nat) : (ofNumber count n).length = count := by
  induction count generalizing n with
  | zero => rfl
  | succ count ih => simp [ofNumber, ih]

theorem toNumber_ofNumber (count n : Nat) :
    toNumber (ofNumber count n) = n % Nat.pow 256 count := by
  induction count generalizing n with
  | zero => simp [ofNumber, toNumber, Nat.mod_one]
  | succ count ih =>
    have grown : Nat.pow 256 (count + 1) = 256 * Nat.pow 256 count := Nat.mul_comm ..
    rw [ofNumber, toNumber, ih, grown, Nat.mod_mul]
    simp [UInt8.toNat_ofNat']

/-- The pieces of a given size, the last one perhaps shorter; a piece is never empty. -/
def pieces {α : Type} (size : Nat) : List α → List (List α)
  | [] => []
  | x :: xs => (x :: xs.take (size - 1)) :: pieces size (xs.drop (size - 1))
termination_by xs => xs.length
decreasing_by simp only [List.length_drop, List.length_cons]; omega

theorem flatten_pieces {α : Type} (size : Nat) (xs : List α) : (pieces size xs).flatten = xs := by
  fun_induction pieces size xs with
  | case1 => rfl
  | case2 x xs ih => rw [List.flatten_cons, ih, List.cons_append, List.take_append_drop]

/-- Bytes filled up with zeros to a length. -/
def padTo (length : Nat) (bs : Bytes) : Bytes :=
  bs ++ List.replicate (length - bs.length) 0

end Bytes

end EtcdBackup
