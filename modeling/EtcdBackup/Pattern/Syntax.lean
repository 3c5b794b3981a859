import EtcdBackup.Unicode.CharSet

/-!
# The structure of patterns

A pattern is a tree of `Node`s. Groups carry their numbers, counted by opening parentheses from
one; the whole match is group zero.
-/

set_option autoImplicit false
set_option relaxedAutoImplicit false

namespace EtcdBackup.Pattern

/-- A condition on a place in a text. -/
inductive Assertion
  | textStart
  | textEnd
  | lineStart
  | lineEnd
  | wordStart
  | wordEnd
  | wordBoundary
  | notWordBoundary
  deriving DecidableEq, Repr

namespace Assertion

/-- Whether the condition speaks about words. -/
def isWord : Assertion → Bool
  | .wordStart | .wordEnd | .wordBoundary | .notWordBoundary => true
  | _ => false

/-- Whether the condition holds between two characters, either of which may be missing. -/
def holds (isWordChar : Char → Bool) (before after : Option Char) : Assertion → Bool
  | .textStart => before.isNone
  | .textEnd => after.isNone
  | .lineStart => before.isNone || before = some '\n'
  | .lineEnd => after.isNone || after = some '\n'
  | .wordStart => !before.any isWordChar && after.any isWordChar
  | .wordEnd => before.any isWordChar && !after.any isWordChar
  | .wordBoundary => before.any isWordChar != after.any isWordChar
  | .notWordBoundary => before.any isWordChar == after.any isWordChar

end Assertion

/-- A direction and sense of looking around. -/
inductive Look
  | ahead
  | notAhead
  | behind
  | notBehind
  deriving DecidableEq, Repr

/-- Whether the direction is back. -/
def Look.isBehind : Look → Bool
  | .behind | .notBehind => true
  | _ => false

/-- Whether the text looked at must not match. -/
def Look.isNegative : Look → Bool
  | .notAhead | .notBehind => true
  | _ => false

/-- A part of a pattern. -/
inductive Node
  | empty
  /-- Any character, or any but a line feed. -/
  | any (newline : Bool)
  | assertion (a : Assertion)
  | literal (c : Char) (ignoreCase : Bool)
  /-- One character of a set. -/
  | set (chars : CharSet)
  | concat (parts : List Node)
  | alt (choices : List Node)
  | group (index : Nat) (child : Node)
  | look (kind : Look) (child : Node)
  /-- Between `low` and `high` times, without bound if there is no `high`. -/
  | repeated (child : Node) (low : Nat) (high : Option Nat) (greedy : Bool)
  /-- The text that a group matched. -/
  | backref (group : Nat)
  /-- A part that is not tried again once it matched. -/
  | atomic (child : Node)
  /-- The match starts here. -/
  | keepOut
  /-- The place where the search started. -/
  | searchStart
  /-- A group took part in the match. -/
  | groupMatched (group : Nat)
  | conditional (condition yes no : Node)
  deriving Inhabited

/-- Whether a part is nothing at all. -/
def Node.isEmpty : Node → Bool
  | .empty => true
  | _ => false

/-- Whether a part may be repeated. -/
def Node.isRepeatable : Node → Bool
  | .look .. | .empty | .assertion _ => false
  | _ => true

end EtcdBackup.Pattern
