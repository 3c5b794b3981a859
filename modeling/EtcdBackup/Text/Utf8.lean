/-!
# Bytes as text

Reading bytes as UTF-8. `Utf8.decode` tells where and how a malformed sequence starts;
`Utf8.lossy` writes U+FFFD for each maximal malformed part instead.
-/

set_option autoImplicit false
set_option relaxedAutoImplicit false

namespace EtcdBackup.Utf8

/-- Where bytes stop being UTF-8: after `validUpTo` good bytes. `length` counts the bytes of the
malformed part, `none` if the bytes end within a character. -/
structure Malformed where
  validUpTo : Nat
  length : Option Nat
  deriving DecidableEq, Repr

/-- The wording of a malformed sequence. -/
def Malformed.message (m : Malformed) : String :=
  match m.length with
  | some n => s!"invalid utf-8 sequence of {n} bytes from index {m.validUpTo}"
  | none => s!"incomplete utf-8 byte sequence from index {m.validUpTo}"

/-- Whether a byte continues a character. -/
def isTail (b : UInt8) : Bool := 0x80 ≤ b && b ≤ 0xBF

/-- The low six bits of a continuing byte. -/
def tailBits (b : UInt8) : Nat := (b &&& 0x3F).toNat

/-- What the front of a list of bytes is: one character with the rest, or a malformed part. -/
inductive Front
  | char (c : Char) (rest : List UInt8)
  | broken (length : Nat) (rest : List UInt8)
  | cut

/-- Whether the second byte of a sequence fits its first byte. -/
def secondFits (first second : UInt8) : Bool :=
  if first = 0xE0 then 0xA0 ≤ second && second ≤ 0xBF
  else if first = 0xED then 0x80 ≤ second && second ≤ 0x9F
  else if first = 0xF0 then 0x90 ≤ second && second ≤ 0xBF
  else if first = 0xF4 then 0x80 ≤ second && second ≤ 0x8F
  else isTail second

/-- The front of the bytes behind a byte that starts a sequence. -/
def front (first : UInt8) (rest : List UInt8) : Front :=
  if first < 0x80 then .char (Char.ofNat first.toNat) rest
  else if first < 0xC2 ∨ 0xF4 < first then .broken 1 rest
  else
    match rest with
    | [] => .cut
    | b :: rest =>
      if ¬secondFits first b then .broken 1 (b :: rest)
      else if first < 0xE0 then
        .char (Char.ofNat ((first &&& 0x1F).toNat * 64 + tailBits b)) rest
      else
        match rest with
        | [] => .cut
        | c :: rest =>
          if ¬isTail c then .broken 2 (c :: rest)
          else if first < 0xF0 then
            .char (Char.ofNat (((first &&& 0x0F).toNat * 64 + tailBits b) * 64 + tailBits c)) rest
          else
            match rest with
            | [] => .cut
            | d :: rest =>
              if ¬isTail d then .broken 3 (d :: rest)
              else
                .char (Char.ofNat
                  ((((first &&& 0x07).toNat * 64 + tailBits b) * 64 + tailBits c) * 64
                    + tailBits d)) rest

theorem front_shorter {first : UInt8} {bytes : List UInt8} :
    (∀ c rest, front first bytes = .char c rest → rest.length ≤ bytes.length) ∧
      (∀ n rest, front first bytes = .broken n rest → rest.length ≤ bytes.length) := by
  unfold front
  constructor <;> intro a rest h <;> (repeat' split at h) <;> cases h <;>
    grind

/-- The characters of bytes behind those already read, or the first malformed part. -/
def decodeFrom (index : Nat) (bytes : List UInt8) : Except Malformed (List Char) :=
  match bytes with
  | [] => .ok []
  | first :: tail =>
    match h : front first tail with
    | .char c rest =>
      have : rest.length ≤ tail.length := front_shorter.1 c rest h
      (decodeFrom (index + c.utf8Size) rest).map (c :: ·)
    | .broken n _ => .error ⟨index, some n⟩
    | .cut => .error ⟨index, none⟩
termination_by bytes.length

/-- The text that bytes denote. -/
def decode (bytes : List UInt8) : Except Malformed String :=
  (decodeFrom 0 bytes).map String.ofList

/-- The characters of bytes, U+FFFD in place of each malformed part. -/
def lossyChars (bytes : List UInt8) : List Char :=
  match bytes with
  | [] => []
  | first :: tail =>
    match h : front first tail with
    | .char c rest =>
      have : rest.length ≤ tail.length := front_shorter.1 c rest h
      c :: lossyChars rest
    | .broken n rest =>
      have : rest.length ≤ tail.length := front_shorter.2 n rest h
      Char.ofNat 0xFFFD :: lossyChars rest
    | .cut => [Char.ofNat 0xFFFD]
termination_by bytes.length

/-- The text of bytes, U+FFFD in place of each malformed part. -/
def lossy (bytes : List UInt8) : String := String.ofList (lossyChars bytes)

/-- The bytes of a text. -/
def encode (s : String) : List UInt8 := s.toUTF8.toList

end EtcdBackup.Utf8
