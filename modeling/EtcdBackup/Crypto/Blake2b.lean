import EtcdBackup.Bytes

/-!
# BLAKE2b

The hash function BLAKE2b without a key, for results of 1 to 64 bytes. A message is taken in
blocks of 128 bytes; each is mixed into a state of eight words in twelve rounds. `Blake2b.round`
is shared with memory-hard hashing, which mixes words in the same order with another addition.
-/

set_option autoImplicit false
set_option relaxedAutoImplicit false

namespace EtcdBackup.Blake2b

/-- Turns the bits of a word to the right. -/
@[inline] def rotateRight (x : UInt64) (count : UInt64) : UInt64 :=
  (x >>> count) ||| (x <<< (64 - count))

/-- The fractional parts of the square roots of the first eight primes. -/
def initialState : Array UInt64 := #[
  0x6A09E667F3BCC908, 0xBB67AE8584CAA73B, 0x3C6EF372FE94F82B, 0xA54FF53A5F1D36F1,
  0x510E527FADE682D1, 0x9B05688C2B3E6C1F, 0x1F83D9ABFB41BD6B, 0x5BE0CD19137E2179]

/-- The order in which each round takes the words of a block. -/
def schedule : List (List Nat) := [
  [0, 1, 2, 3, 4, 5, 6, 7, 8, 9, 10, 11, 12, 13, 14, 15],
  [14, 10, 4, 8, 9, 15, 13, 6, 1, 12, 0, 2, 11, 7, 5, 3],
  [11, 8, 12, 0, 5, 2, 15, 13, 10, 14, 3, 6, 7, 1, 9, 4],
  [7, 9, 3, 1, 13, 12, 11, 14, 2, 6, 5, 10, 4, 0, 15, 8],
  [9, 0, 5, 7, 2, 4, 10, 15, 14, 1, 11, 12, 6, 8, 3, 13],
  [2, 12, 6, 10, 0, 11, 8, 3, 4, 13, 7, 5, 15, 14, 1, 9],
  [12, 5, 1, 15, 14, 13, 4, 10, 0, 7, 6, 3, 9, 2, 8, 11],
  [13, 11, 7, 14, 12, 1, 3, 9, 5, 0, 15, 4, 8, 6, 2, 10],
  [6, 15, 14, 9, 11, 3, 0, 8, 12, 2, 13, 7, 1, 4, 10, 5],
  [10, 2, 8, 4, 7, 6, 1, 5, 15, 11, 9, 14, 3, 12, 13, 0],
  [0, 1, 2, 3, 4, 5, 6, 7, 8, 9, 10, 11, 12, 13, 14, 15],
  [14, 10, 4, 8, 9, 15, 13, 6, 1, 12, 0, 2, 11, 7, 5, 3]]

/-- Four words that are mixed with each other. -/
structure Quarter where
  a : UInt64
  b : UInt64
  c : UInt64
  d : UInt64

/-- Half of the mixing of four words, with the distances of its two turns. -/
@[inline] def Quarter.half (add : UInt64 → UInt64 → UInt64) (extra first second : UInt64)
    (q : Quarter) : Quarter :=
  let a := add q.a q.b + extra
  let d := rotateRight (q.d ^^^ a) first
  let c := add q.c d
  let b := rotateRight (q.b ^^^ c) second
  ⟨a, b, c, d⟩

/-- Mixes four words and adds two more. -/
@[inline] def Quarter.mix (add : UInt64 → UInt64 → UInt64) (x y : UInt64) (q : Quarter) :
    Quarter :=
  (q.half add x 32 24).half add y 16 63

/-- Mixes the four words at the given places. -/
@[inline] def mixAt (add : UInt64 → UInt64 → UInt64) (words : Array UInt64) (i j k l : Nat)
    (x y : UInt64) : Array UInt64 :=
  let q := Quarter.mix add x y
    ⟨words.getD i 0, words.getD j 0, words.getD k 0, words.getD l 0⟩
  (((words.setIfInBounds i q.a).setIfInBounds j q.b).setIfInBounds k q.c).setIfInBounds l q.d

/-- One round on the sixteen words at the places `place 0` to `place 15`: it mixes the columns and
then the diagonals of the square that they form, and takes up sixteen words of `extra`. -/
@[specialize] def round (add : UInt64 → UInt64 → UInt64) (place : Nat → Nat)
    (extra : Nat → UInt64) (words : Array UInt64) : Array UInt64 :=
  let words := mixAt add words (place 0) (place 4) (place 8) (place 12) (extra 0) (extra 1)
  let words := mixAt add words (place 1) (place 5) (place 9) (place 13) (extra 2) (extra 3)
  let words := mixAt add words (place 2) (place 6) (place 10) (place 14) (extra 4) (extra 5)
  let words := mixAt add words (place 3) (place 7) (place 11) (place 15) (extra 6) (extra 7)
  let words := mixAt add words (place 0) (place 5) (place 10) (place 15) (extra 8) (extra 9)
  let words := mixAt add words (place 1) (place 6) (place 11) (place 12) (extra 10) (extra 11)
  let words := mixAt add words (place 2) (place 7) (place 8) (place 13) (extra 12) (extra 13)
  mixAt add words (place 3) (place 4) (place 9) (place 14) (extra 14) (extra 15)

/-- The words that bytes spell. -/
def words (bs : Bytes) : Array UInt64 :=
  ((Bytes.pieces 8 bs).map fun piece ↦ UInt64.ofNat (Bytes.toNumber piece)).toArray

/-- The bytes of words. -/
def bytes (words : Array UInt64) : Bytes :=
  words.toList.flatMap fun w ↦ Bytes.ofNumber 8 w.toNat

/-- Takes a block into a state; `taken` counts the bytes of the message up to its end. -/
def compress (state : Array UInt64) (block : Bytes) (taken : Nat) (isLast : Bool) :
    Array UInt64 :=
  let message := words (Bytes.padTo 128 block)
  let flip (i : Nat) (x : UInt64) (ws : Array UInt64) : Array UInt64 :=
    ws.setIfInBounds i (ws.getD i 0 ^^^ x)
  let start := flip 12 (UInt64.ofNat taken) (flip 13 (UInt64.ofNat (taken / UInt64.size))
    (state ++ initialState))
  let start := if isLast then flip 14 0xFFFFFFFFFFFFFFFF start else start
  let mixed := schedule.foldl (fun ws order ↦
    round (· + ·) id (fun i ↦ message.getD (order.getD i 0) 0) ws) start
  (Array.range 8).map fun i ↦ state.getD i 0 ^^^ mixed.getD i 0 ^^^ mixed.getD (i + 8) 0

/-- Takes all blocks of a message into a state. -/
def absorb (state : Array UInt64) (taken : Nat) : List Bytes → Array UInt64
  | [] => state
  | [block] => compress state block (taken + block.length) true
  | block :: rest => absorb (compress state block (taken + 128) false) (taken + 128) rest

/-- The hash of a message, `length` bytes long. -/
def hash (length : Nat) (message : Bytes) : Bytes :=
  let start := initialState.setIfInBounds 0
    (initialState.getD 0 0 ^^^ 0x01010000 ^^^ UInt64.ofNat length)
  let blocks := if message.isEmpty then [[]] else Bytes.pieces 128 message
  (bytes (absorb start 0 blocks)).take length

end EtcdBackup.Blake2b
