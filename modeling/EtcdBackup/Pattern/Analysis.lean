import EtcdBackup.Pattern.Syntax

/-!
# Sizes and hardness of pattern parts

A part is hard if it needs backtracking with memory: look-around, references to groups, atomic
groups, conditions on words, and everything that contains one of these. Of each part the least
number of characters that it matches is known, and whether it always matches that number.
-/

set_option autoImplicit false
set_option relaxedAutoImplicit false

namespace EtcdBackup.Pattern

/-- What is known of a part: the least number of characters, whether there are never more, and
whether the part is hard. -/
structure Shape where
  least : Nat
  constant : Bool
  hard : Bool
  deriving DecidableEq, Repr

namespace Shape

/-- The shape of a sequence of two parts. -/
def append (a b : Shape) : Shape :=
  ⟨a.least + b.least, a.constant && b.constant, a.hard || b.hard⟩

/-- The shape of a choice between two parts. -/
def orElse (a b : Shape) : Shape :=
  ⟨min a.least b.least, a.constant && b.constant && a.least = b.least, a.hard || b.hard⟩

/-- The same sizes, and hard. -/
def harden (a : Shape) : Shape := { a with hard := true }

end Shape

namespace Node

mutual

/-- The shape of a part, where some groups are referred to. -/
def shape (referenced : List Nat) : Node → Shape
  | .empty => ⟨0, true, false⟩
  | .any _ => ⟨1, true, false⟩
  | .assertion a => ⟨0, true, a.isWord⟩
  | .literal _ _ => ⟨1, true, false⟩
  | .set _ => ⟨1, true, false⟩
  | .concat parts => shapeAll referenced parts
  | .alt choices => shapeAny referenced choices
  | .group index child =>
    let s := shape referenced child
    { s with hard := s.hard || referenced.contains index }
  | .look _ _ => ⟨0, true, true⟩
  | .repeated child low high _ =>
    let s := shape referenced child
    ⟨s.least * low, s.constant && high = some low, s.hard⟩
  | .backref _ => ⟨0, false, true⟩
  | .atomic child => (shape referenced child).harden
  | .keepOut => ⟨0, true, true⟩
  | .searchStart => ⟨0, true, true⟩
  | .groupMatched _ => ⟨0, true, true⟩
  | .conditional condition yes no =>
    let c := shape referenced condition
    let y := shape referenced yes
    let n := shape referenced no
    ⟨c.least + min y.least n.least,
      c.constant && y.constant && n.constant && c.least + y.least = n.least, true⟩

/-- The shape of a sequence. -/
def shapeAll (referenced : List Nat) : List Node → Shape
  | [] => ⟨0, true, false⟩
  | part :: rest => (shape referenced part).append (shapeAll referenced rest)

/-- The shape of a choice. -/
def shapeAny (referenced : List Nat) : List Node → Shape
  | [] => ⟨0, true, false⟩
  | [choice] => shape referenced choice
  | choice :: rest => (shape referenced choice).orElse (shapeAny referenced rest)

end

mutual

/-- The characters of a part that is a plain text. -/
def plainText? : Node → Option (List Char)
  | .literal c false => some [c]
  | .concat parts => plainTexts? parts
  | _ => none

/-- The characters of a sequence of plain texts. -/
def plainTexts? : List Node → Option (List Char)
  | [] => some []
  | part :: rest =>
    match plainText? part, plainTexts? rest with
    | some a, some b => some (a ++ b)
    | _, _ => none

end

end Node

end EtcdBackup.Pattern
