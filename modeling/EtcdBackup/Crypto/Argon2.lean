import EtcdBackup.Crypto.Blake2b

/-!
# Argon2id

Memory-hard hashing of passphrases with one lane. The memory is a row of blocks of 1024 bytes that
is filled in several passes, each block from the one before it and another one. A pass has four
slices; in the first two slices of the first pass the other block is chosen by place alone, later
it is chosen by what was computed so far.
-/

set_option autoImplicit false
set_option relaxedAutoImplicit false

namespace EtcdBackup.Argon2

/-- How much work a hash takes, and its length. -/
structure Cost where
  /-- The number of blocks, a multiple of four. -/
  memory : Nat
  passes : Nat
  length : Nat

/-- A block of 128 words. -/
abbrev Block : Type := Array UInt64

/-- The block of zeros. -/
def zeroBlock : Block := Array.replicate 128 0

/-- The hash of any length. -/
def longHash (length : Nat) (message : Bytes) : Bytes :=
  let message := Bytes.ofNumber 4 length ++ message
  if length ≤ 64 then Blake2b.hash length message
  else extend (length / 32) length (Blake2b.hash 64 message)
where
  /-- Half of each hash of a chain, and the whole of the last one. -/
  extend : Nat → Nat → Bytes → Bytes
    | 0, _, link => link
    | steps + 1, missing, link =>
      if missing ≤ 64 then link
      else
        let missing := missing - 32
        link.take 32 ++ extend steps missing (Blake2b.hash (min missing 64) link)

/-- The sum of two words and twice the product of their lower halves. -/
@[inline] def add (x y : UInt64) : UInt64 :=
  x + y + 2 * (x &&& 0xFFFFFFFF) * (y &&& 0xFFFFFFFF)

/-- One round on sixteen words of a block. -/
def permute (place : Nat → Nat) (block : Block) : Block :=
  Blake2b.round add place (fun _ ↦ 0) block

/-- Word by word exclusive or. -/
def xor (x y : Block) : Block := Array.zipWith (· ^^^ ·) x y

/-- A block from two others: rows and columns of the square of eight times eight pairs of words
are mixed. -/
def compress (x y : Block) : Block :=
  let start := xor x y
  let rows := (List.range 8).foldl (fun z i ↦ permute (16 * i + ·) z) start
  let columns := (List.range 8).foldl (fun z i ↦ permute (fun k ↦ 2 * i + 16 * (k / 2) + k % 2) z)
    rows
  xor start columns

/-- A place that a block is computed for. -/
structure Position where
  pass : Nat
  slice : Nat
  /-- The number of the block in its slice. -/
  offset : Nat

/-- The blocks of a slice. -/
def Cost.sliceLength (c : Cost) : Nat := c.memory / 4

/-- The number of a block in the row. -/
def Position.index (p : Position) (c : Cost) : Nat := p.slice * c.sliceLength + p.offset

/-- Whether the other block is chosen by place alone. -/
def Position.isBlind (p : Position) : Bool := p.pass = 0 && p.slice < 2

/-- The words that choose the other blocks for 128 places from `counter` on. -/
def addresses (c : Cost) (p : Position) (counter : Nat) : Block :=
  let numbers := [p.pass, 0, p.slice, c.memory, c.passes, 2, counter]
  let seed := (numbers.map UInt64.ofNat).toArray ++ Array.replicate 121 0
  compress zeroBlock (compress zeroBlock seed)

/-- The number of the other block that a word chooses; the nearer blocks are more likely. -/
def reference (c : Cost) (p : Position) (choice : UInt64) : Nat :=
  let reach :=
    if p.pass = 0 then p.index c - 1 else c.memory - c.sliceLength + p.offset - 1
  let start := if p.pass = 0 then 0 else (p.slice + 1) * c.sliceLength
  let x := choice.toNat % UInt32.size
  let distance := reach * (x * x / UInt32.size) / UInt32.size
  (start + (reach - 1 - distance)) % c.memory

/-- The memory, and the words that choose blocks in a blind slice. -/
structure State where
  memory : Array Block
  choices : Block := zeroBlock

/-- Computes the block at a position. -/
def fill (c : Cost) (s : State) (p : Position) : State :=
  let index := p.index c
  let previous := s.memory.getD ((index + c.memory - 1) % c.memory) zeroBlock
  let choices :=
    if p.isBlind && (p.offset % 128 = 0 || index = 2) then addresses c p (p.offset / 128 + 1)
    else s.choices
  let choice := if p.isBlind then choices.getD (p.offset % 128) 0 else previous.getD 0 0
  let other := s.memory.getD (reference c p choice) zeroBlock
  let fresh := compress previous other
  let block := if p.pass = 0 then fresh else xor (s.memory.getD index zeroBlock) fresh
  ⟨s.memory.setIfInBounds index block, choices⟩

/-- All positions of a pass in their order. -/
def positions (c : Cost) (pass : Nat) : List Position :=
  (List.range 4).flatMap fun slice ↦ (List.range c.sliceLength).map fun offset ↦
    ⟨pass, slice, offset⟩

/-- The hash of a passphrase and a salt. -/
def hash (c : Cost) (passphrase salt : Bytes) : Bytes :=
  let word (n : Nat) : Bytes := Bytes.ofNumber 4 n
  let seed := Blake2b.hash 64 <|
    word 1 ++ word c.length ++ word c.memory ++ word c.passes ++ word 0x13 ++ word 2 ++
    word passphrase.length ++ passphrase ++ word salt.length ++ salt ++ word 0 ++ word 0
  let first (i : Nat) : Block := Blake2b.words (longHash 1024 (seed ++ word i ++ word 0))
  let memory := ((Array.replicate c.memory zeroBlock).setIfInBounds 0 (first 0)).setIfInBounds 1
    (first 1)
  let given (p : Position) : Bool := p.pass = 0 && p.slice = 0 && p.offset < 2
  let steps := ((List.range c.passes).flatMap (positions c)).filter fun p ↦ !given p
  let s := steps.foldl (fill c) ⟨memory, zeroBlock⟩
  longHash c.length (Blake2b.bytes (s.memory.getD (c.memory - 1) zeroBlock))

end EtcdBackup.Argon2
