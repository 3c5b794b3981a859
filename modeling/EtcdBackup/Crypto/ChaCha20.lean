import EtcdBackup.Bytes

/-!
# ChaCha20

The stream cipher ChaCha20 with a key of 32 bytes and a nonce of 12. Each block of 64 bytes of the
key stream is made of the key, the nonce and the number of the block. Applying the key stream a
second time undoes the first (`ChaCha20.apply_apply`).
-/

set_option autoImplicit false
set_option relaxedAutoImplicit false

namespace EtcdBackup.ChaCha20

/-- Turns the bits of a word to the left. -/
@[inline] def rotateLeft (x : UInt32) (count : UInt32) : UInt32 :=
  (x <<< count) ||| (x >>> (32 - count))

/-- Mixes the four words at the given places. -/
def quarter (i j k l : Nat) (words : Array UInt32) : Array UInt32 :=
  let a := words.getD i 0
  let b := words.getD j 0
  let c := words.getD k 0
  let d := words.getD l 0
  let a := a + b
  let d := rotateLeft (d ^^^ a) 16
  let c := c + d
  let b := rotateLeft (b ^^^ c) 12
  let a := a + b
  let d := rotateLeft (d ^^^ a) 8
  let c := c + d
  let b := rotateLeft (b ^^^ c) 7
  (((words.setIfInBounds i a).setIfInBounds j b).setIfInBounds k c).setIfInBounds l d

/-- Mixes the columns and then the diagonals. -/
def doubleRound (words : Array UInt32) : Array UInt32 :=
  quarter 3 4 9 14 <| quarter 2 7 8 13 <| quarter 1 6 11 12 <| quarter 0 5 10 15 <|
  quarter 3 7 11 15 <| quarter 2 6 10 14 <| quarter 1 5 9 13 <| quarter 0 4 8 12 words

/-- The words that bytes spell. -/
def words (bs : Bytes) : List UInt32 :=
  (Bytes.pieces 4 bs).map fun piece ↦ UInt32.ofNat (Bytes.toNumber piece)

/-- The words in front of the key: the text `expand 32-byte k`. -/
def constants : List UInt32 := [0x61707865, 0x3320646E, 0x79622D32, 0x6B206574]

/-- A block of the key stream. -/
def block (key nonce : Bytes) (counter : Nat) : Bytes :=
  let start := (constants ++ words key ++ [UInt32.ofNat counter] ++ words nonce).toArray
  let mixed := (List.range 10).foldl (fun ws _ ↦ doubleRound ws) start
  (Array.zipWith (· + ·) start mixed).toList.flatMap fun w ↦ Bytes.ofNumber 4 w.toNat

/-- The key stream from a block on, at least `length` bytes of it. -/
def keyStream (key nonce : Bytes) (counter length : Nat) : Bytes :=
  (List.range (length / 64 + 1)).flatMap fun i ↦ block key nonce (counter + i)

/-- Lays a stream over bytes, bit by bit exclusive or; where the stream ends the bytes stay. -/
def overlay : Bytes → Bytes → Bytes
  | [], _ => []
  | b :: rest, [] => b :: rest
  | b :: rest, s :: stream => (b ^^^ s) :: overlay rest stream

/-- Seals or opens bytes with the key stream from a block on. -/
def apply (key nonce : Bytes) (counter : Nat) (bs : Bytes) : Bytes :=
  overlay bs (keyStream key nonce counter bs.length)

@[simp] theorem length_overlay (bs stream : Bytes) : (overlay bs stream).length = bs.length := by
  fun_induction overlay bs stream <;> simp_all

@[simp] theorem length_apply (key nonce : Bytes) (counter : Nat) (bs : Bytes) :
    (apply key nonce counter bs).length = bs.length := length_overlay ..

theorem overlay_overlay (bs stream : Bytes) : overlay (overlay bs stream) stream = bs := by
  fun_induction overlay bs stream with
  | case1 => rfl
  | case2 => rfl
  | case3 b rest s stream ih =>
    simp only [overlay, ih]
    rw [UInt8.xor_assoc, UInt8.xor_self, UInt8.xor_zero]

theorem apply_apply (key nonce : Bytes) (counter : Nat) (bs : Bytes) :
    apply key nonce counter (apply key nonce counter bs) = bs := by
  rw [apply, length_apply, apply, overlay_overlay]

end EtcdBackup.ChaCha20
