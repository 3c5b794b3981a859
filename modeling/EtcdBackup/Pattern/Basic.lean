import EtcdBackup.Pattern.Machine

/-!
# Patterns

A `Pattern` is compiled from its text once, or refused with a fault, and then asked about names.
`Pattern.search` is a function of pattern and text with three answers: a part of the text matches,
none does, or the search was given up. Patterns without hard parts are never given up.
-/

set_option autoImplicit false
set_option relaxedAutoImplicit false

namespace EtcdBackup

/-- A compiled pattern. -/
inductive Pattern
  | linear (automaton : Pattern.Automaton)
  | backtracking (program : Pattern.Program)

namespace Pattern

/-- The pattern that a text denotes. -/
def compile (text : String) : Except Fault Pattern := do
  let parsed ← Parsed.ofText text
  if parsed.referenced.any fun group ↦ group = 0 ∨ parsed.groups < group then
    .error .invalidBackreference
  if (parsed.node.shape parsed.referenced).hard then
    (Program.ofParsed parsed).map .backtracking
  else (Automaton.ofNodes [parsed.node]).map .linear

/-- Whether some part of a text matches. -/
def search (pattern : Pattern) (text : String) : Outcome :=
  let words := Unicode.wordChars ()
  let isWordChar (c : Char) : Bool := words.contains c.toNat
  let chars := text.toList.toArray
  match pattern with
  | .linear a => if a.isMatch isWordChar chars then .matched else .unmatched
  | .backtracking p => Machine.search p isWordChar chars

end Pattern

end EtcdBackup
