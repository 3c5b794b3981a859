import EtcdBackup.Text.Blank

/-!
# Addresses

`Uri.parse` takes an address apart into scheme, authority and target, or names the first fault.
The target is the path with the query; what follows a number sign is dropped. In paths and queries
characters beyond ASCII may stand as they are, in authorities they may not.
-/

set_option autoImplicit false
set_option relaxedAutoImplicit false

namespace EtcdBackup

/-- A path with the query behind it. -/
structure Uri.Target where
  path : String
  query : Option String
  deriving DecidableEq, Repr, Inhabited

/-- An address. -/
structure Uri where
  scheme : Option String
  authority : String
  target : Uri.Target
  deriving DecidableEq, Repr

/-- Why a text is no address. -/
inductive Uri.Fault
  | invalidCharacter
  | invalidAuthority
  | invalidFormat
  | empty
  | tooLong
  | schemeTooLong
  deriving DecidableEq, Repr

namespace Uri

/-- The wording of a fault. -/
def Fault.message : Fault → String
  | .invalidCharacter => "invalid uri character"
  | .invalidAuthority => "invalid authority"
  | .invalidFormat => "invalid format"
  | .empty => "empty string"
  | .tooLong => "uri too long"
  | .schemeTooLong => "scheme too long"

/-- The most bytes that an address can have. -/
def maxLength : Nat := 65534

/-- Whether a character may stand in a path. -/
def isPathChar (c : Char) : Bool :=
  let n := c.toNat
  n = 0x21 || n = 0x22 || (0x24 ≤ n && n ≤ 0x3B) || n = 0x3D || (0x40 ≤ n && n ≤ 0x5F) ||
    (0x61 ≤ n && n ≤ 0x7E) || 0x7F ≤ n

/-- Whether a character may stand in a query. -/
def isQueryChar (c : Char) : Bool :=
  let n := c.toNat
  n = 0x21 || (0x24 ≤ n && n ≤ 0x3B) || n = 0x3D || (0x3F ≤ n && n ≤ 0x7E) || 0x7F ≤ n

/-- Whether a character may stand in an authority; the percent sign is judged apart. -/
def isAuthorityChar (c : Char) : Bool :=
  c.isAlphanum || "!#$&()*+,-./:;=?@[]_~".contains c || c.toNat = 39

/-- Whether a character may stand in a scheme. -/
def isSchemeChar (c : Char) : Bool := c.isAlphanum || c = '+' || c = '-' || c = '.'

/-- The path and the query that characters denote. -/
def parseTarget (cs : List Char) : Except Fault Target := do
  let cs := cs.takeWhile (· ≠ '#')
  let path := cs.takeWhile (· ≠ '?')
  if !path.all isPathChar then .error .invalidCharacter
  match cs.dropWhile (· ≠ '?') with
  | [] => .ok ⟨String.ofList path, none⟩
  | _ :: query =>
    if query.all isQueryChar then .ok ⟨String.ofList path, some (String.ofList query)⟩
    else .error .invalidCharacter

/-- What is known of an authority while it is read. -/
structure AuthorityState where
  colons : Nat := 0
  opened : Bool := false
  closed : Bool := false
  percent : Bool := false
  /-- The last character read was an at sign. -/
  atEnd : Bool := false

/-- Reads one character of an authority. -/
def AuthorityState.read (s : AuthorityState) (c : Char) : Except Fault AuthorityState :=
  let s := { s with atEnd := false }
  match c with
  | ':' => if s.colons < 8 then .ok { s with colons := s.colons + 1 } else .error .invalidAuthority
  | '[' => if s.percent || s.opened then .error .invalidAuthority else .ok { s with opened := true }
  | ']' =>
    if !s.opened || s.closed then .error .invalidAuthority
    else .ok { s with closed := true, colons := 0, percent := false }
  | '@' => .ok { s with colons := 0, percent := false, atEnd := true }
  | '%' => .ok { s with percent := true }
  | c => if isAuthorityChar c then .ok s else .error .invalidCharacter

/-- The authority at the front of characters, and the rest. -/
def parseAuthority (cs : List Char) : Except Fault (List Char × List Char) := do
  let inside (c : Char) : Bool := c ≠ '/' && c ≠ '?' && c ≠ '#'
  let authority := cs.takeWhile inside
  let s ← authority.foldlM AuthorityState.read {}
  if s.opened ≠ s.closed || 1 < s.colons || s.atEnd || s.percent then .error .invalidAuthority
  .ok (authority, cs.dropWhile inside)

/-- The scheme at the front of characters, if there is one, and the rest. -/
def parseScheme (cs : List Char) : Except Fault (Option String × List Char) :=
  let scheme := cs.takeWhile isSchemeChar
  match cs.dropWhile isSchemeChar with
  | ':' :: '/' :: '/' :: rest =>
    if 64 < scheme.length then .error .schemeTooLong else .ok (some (String.ofList scheme), rest)
  | _ => .ok (none, cs)

/-- The address that a text denotes. -/
def parse (text : String) : Except Fault Uri := do
  let cs := text.toList
  if maxLength < text.utf8ByteSize then .error .tooLong
  match cs with
  | [] => .error .empty
  | ['*'] => .ok ⟨none, "", ⟨"*", none⟩⟩
  | '/' :: _ => return ⟨none, "", ← parseTarget cs⟩
  | cs =>
    let (scheme, rest) ← parseScheme cs
    let (authority, rest) ← parseAuthority rest
    if scheme.isNone then
      if rest.isEmpty then .ok ⟨none, String.ofList authority, ⟨"", none⟩⟩
      else .error (if cs.length = 1 then .invalidCharacter else .invalidFormat)
    else if authority.isEmpty then .error .invalidFormat
    else return ⟨scheme, String.ofList authority, ← parseTarget rest⟩

end Uri

end EtcdBackup
