import EtcdBackup.FileTree
import EtcdBackup.Text.Utf8

/-!
# Tar archives

An archive is a row of entries in records of 512 bytes: for each a header with the path, the length
and a checksum, and behind it the content. A path that does not fit its field stands in an entry of
its own in front. Paths of directories end in a slash in the archive and in none outside.
-/

set_option autoImplicit false
set_option relaxedAutoImplicit false

namespace EtcdBackup.Tar

/-- A file or a directory in an archive. -/
structure Entry where
  path : String
  /-- The content of a file; a directory has none. -/
  content : Option Bytes
  deriving DecidableEq, Inhabited

mutual

/-- The entries of a file, or of a directory with all that is in it, under a path. -/
def entriesOf (path : String) : FileTree → List Entry
  | .file content => [⟨path, some content⟩]
  | .directory entries => ⟨path, none⟩ :: entriesInside path entries

/-- The entries of what is in a directory. -/
def entriesInside (path : String) : List (String × FileTree) → List Entry
  | [] => []
  | (name, tree) :: rest => entriesOf (path ++ "/" ++ name) tree ++ entriesInside path rest

end

/-- The length of a record. -/
def recordLength : Nat := 512

/-- The octal digits of a number, with a given count of them. -/
def octalDigits : Nat → Nat → Bytes
  | 0, _ => []
  | count + 1, n => octalDigits count (n / 8) ++ [UInt8.ofNat (48 + n % 8)]

/-- A number in a field: octal digits and a zero byte, or with a mark the bytes of the number, the
highest first, if it has too many digits. -/
def numberField (width n : Nat) : Bytes :=
  if n < Nat.pow 8 (width - 1) then octalDigits (width - 1) n ++ [0]
  else 0x80 :: (Bytes.ofNumber (width - 1) n).reverse

/-- Text in a field, filled up with zero bytes. -/
def textField (width : Nat) (text : Bytes) : Bytes := Bytes.padTo width (text.take width)

/-- The kinds of entries, as they are marked in headers. -/
inductive Kind
  | file
  | directory
  /-- The path of the next entry. -/
  | longPath
  deriving DecidableEq

/-- The mark of a kind. -/
def Kind.mark : Kind → UInt8
  | .file => 0x30
  | .directory => 0x35
  | .longPath => 0x4C

/-- The kind with a mark. -/
def Kind.ofMark? (mark : UInt8) : Option Kind :=
  if mark = 0x30 ∨ mark = 0 then some .file
  else if mark = 0x35 then some .directory
  else if mark = 0x4C then some .longPath
  else none

/-- The permissions of an entry. -/
def Kind.mode : Kind → Nat
  | .directory => 0o755
  | _ => 0o644

/-- The fields of a header in front of the checksum. -/
def headerStart (kind : Kind) (path : Bytes) (length : Nat) : Bytes :=
  textField 100 path ++ numberField 8 kind.mode ++ numberField 8 0 ++ numberField 8 0 ++
    numberField 12 length ++ numberField 12 0

/-- The fields of a header behind the checksum; the text is `ustar` with two spaces. -/
def headerEnd (kind : Kind) : Bytes :=
  kind.mark :: (List.replicate 100 0 ++ [0x75, 0x73, 0x74, 0x61, 0x72, 0x20, 0x20, 0] ++
    List.replicate 247 0)

/-- The sum of all bytes of a header, spaces standing for the checksum itself. -/
def checksum (start rest : Bytes) : Nat :=
  (start ++ List.replicate 8 0x20 ++ rest).foldl (fun sum (b : UInt8) ↦ sum + b.toNat) 0

/-- A header. -/
def header (kind : Kind) (path : Bytes) (length : Nat) : Bytes :=
  let start := headerStart kind path length
  let rest := headerEnd kind
  start ++ octalDigits 6 (checksum start rest) ++ [0, 0x20] ++ rest

/-- Content filled up to whole records. -/
def records (content : Bytes) : Bytes :=
  Bytes.padTo ((content.length + recordLength - 1) / recordLength * recordLength) content

/-- An entry with a path that fits its field or not. -/
def pack (kind : Kind) (path content : Bytes) : Bytes :=
  let entry := header kind path content.length ++ records content
  if path.length ≤ 100 then entry
  else
    let path := path ++ [0]
    header .longPath (Utf8.encode "././@LongLink") path.length ++ records path ++ entry

/-- An entry in an archive. -/
def packEntry (e : Entry) : Bytes :=
  match e.content with
  | some content => pack .file (Utf8.encode e.path) content
  | none => pack .directory (Utf8.encode e.path ++ [0x2F]) []

/-- The archive of entries; two empty records end it. -/
def write (entries : List Entry) : Bytes :=
  entries.flatMap packEntry ++ List.replicate (2 * recordLength) 0

/-- The number that octal digits spell, up to the first byte that is none. -/
def octalNumber (n : Nat) : Bytes → Nat
  | [] => n
  | b :: rest => if 0x30 ≤ b ∧ b ≤ 0x37 then octalNumber (8 * n + (b.toNat - 48)) rest else n

/-- The number in a field. -/
def readNumber : Bytes → Nat
  | 0x80 :: rest => Bytes.toNumber rest.reverse
  | field => octalNumber 0 field

/-- The bytes in front of the first zero byte. -/
def readText (field : Bytes) : Bytes := field.takeWhile (· ≠ 0)

/-- The path that bytes spell, without a slash at the end. -/
def readPath (bs : Bytes) : String :=
  Utf8.lossy (if bs.getLast? = some 0x2F then bs.dropLast else bs)

/-- The part of bytes from a place on. -/
def part (bs : Bytes) (start length : Nat) : Bytes := (bs.drop start).take length

/-- The kind and the length in a header, unless it is damaged. -/
def readHeader? (header : Bytes) : Option (Kind × Nat) :=
  if header.length < recordLength ∨
      readNumber (part header 148 8) ≠ checksum (part header 0 148) (part header 156 356) then none
  else (Kind.ofMark? ((header.drop 156).headD 0)).map fun kind ↦
    (kind, readNumber (part header 124 12))

/-- The entries at the front of an archive; `given` is the path that stood in front of the next
entry. -/
def readEntries? (given : Option Bytes) (bs : Bytes) : Option (List Entry) :=
  if bs.take recordLength = List.replicate recordLength 0 then some []
  else
    match readHeader? (bs.take recordLength) with
    | none => none
    | some (kind, length) =>
      let content := part bs recordLength length
      let rest := bs.drop (recordLength + (length + recordLength - 1) / recordLength * recordLength)
      if _ : rest.length < bs.length then
        let path := given.getD (readText (bs.take 100))
        match kind with
        | .longPath => readEntries? (some (readText content)) rest
        | .file => (readEntries? none rest).map (⟨readPath path, some content⟩ :: ·)
        | .directory => (readEntries? none rest).map (⟨readPath path, none⟩ :: ·)
      else none
termination_by bs.length
decreasing_by all_goals assumption

/-- The entries of an archive, unless it is damaged. -/
def read? (archive : Bytes) : Option (List Entry) := readEntries? none archive

end EtcdBackup.Tar
