import EtcdBackup.Pattern.Class
import EtcdBackup.Pattern.Syntax

/-!
# Reading patterns

`Node.parse` reads the text of a pattern. Besides what regular expressions have, patterns know
look-around, backreferences by number and by name, atomic groups, possessive quantifiers,
conditionals and inline flags. A brace that does not open a valid count stands for itself. The
reader carries the flags in force, and the groups and backreferences met so far; its recursion is
bounded by a count that the length of the text supplies.
-/

set_option autoImplicit false
set_option relaxedAutoImplicit false

namespace EtcdBackup.Pattern

/-- The inline flags. -/
structure Flags where
  ignoreCase : Bool := false
  multiLine : Bool := false
  dotNewline : Bool := false
  swapGreed : Bool := false
  ignoreSpace : Bool := false

/-- What the reader remembers. -/
structure ParserState where
  flags : Flags := {}
  /-- The number of groups opened so far. -/
  groups : Nat := 0
  /-- The groups with names, the latest first. -/
  names : List (String × Nat) := []
  /-- Whether a group was referred to by number. -/
  numbered : Bool := false
  /-- The groups that were referred to. -/
  referenced : List Nat := []

namespace Parser

/-- The reader's monad. -/
abbrev Read : Type → Type := StateT ParserState (Except Fault)

/-- Gives up. -/
def fail {α : Type} (fault : Fault) : Read α := throw fault

/-- The text behind a comment's opening. -/
def skipComment : List Char → Except Fault (List Char)
  | ')' :: rest => .ok rest
  | '\\' :: _ :: rest => skipComment rest
  | _ :: rest => skipComment rest
  | [] => .error .unclosedGroup

theorem skipComment_length {cs rest : List Char} (h : skipComment cs = .ok rest) :
    rest.length < cs.length := by
  fun_induction skipComment cs <;> simp_all <;> grind

/-- The text behind the next line feed. -/
def skipLine : List Char → List Char
  | [] => []
  | c :: rest => if c = '\n' then rest else skipLine rest

theorem skipLine_length (cs : List Char) : (skipLine cs).length ≤ cs.length := by
  induction cs with
  | nil => exact Nat.le_refl 0
  | cons c rest ih =>
    rw [skipLine, List.length_cons]
    split
    · exact Nat.le_succ _
    · exact Nat.le_succ_of_le ih

/-- The text without leading comments, and without leading white space and line comments where
the flag `x` is set. -/
def skip (ignoreSpace : Bool) (cs : List Char) : Except Fault (List Char) :=
  match cs with
  | '(' :: '?' :: '#' :: rest =>
    match h : skipComment rest with
    | .error e => .error e
    | .ok after =>
      have := skipComment_length h
      skip ignoreSpace after
  | c :: rest =>
    if ignoreSpace then
      if c = ' ' ∨ c = '\r' ∨ c = '\n' ∨ c = '\t' then skip ignoreSpace rest
      else if c = '#' then
        have := skipLine_length rest
        skip ignoreSpace (skipLine rest)
      else .ok (c :: rest)
    else .ok (c :: rest)
  | [] => .ok []
termination_by cs.length
decreasing_by all_goals simp_all <;> omega

/-- The text without what is skipped between tokens. -/
def blank (cs : List Char) : Read (List Char) := do
  match skip (← get).flags.ignoreSpace cs with
  | .ok rest => pure rest
  | .error e => fail e

/-- A decimal number below `2 ^ 64`. -/
def decimal? (cs : List Char) : Option (Nat × List Char) :=
  let run := cs.takeWhile Char.isDigit
  let value := run.foldl (fun n c ↦ n * 10 + (c.toNat - 48)) 0
  if run.isEmpty ∨ UInt64.size ≤ value then none else some (value, cs.dropWhile Char.isDigit)

/-- The counts of a repetition behind its opening brace. -/
def counts? (cs : List Char) : Read (Option (Nat × Option Nat × List Char)) := do
  let cs ← blank cs
  let start := match cs with
    | ',' :: _ => some (0, cs)
    | _ => decimal? cs
  match start with
  | none => pure none
  | some (low, cs) =>
    match ← blank cs with
    | '\x7d' :: rest => pure (some (low, some low, rest))
    | ',' :: rest =>
      let cs ← blank rest
      let (high, cs) := match decimal? cs with
        | some (high, cs) => (some high, cs)
        | none => (none, cs)
      match ← blank cs with
      | '\x7d' :: rest => pure (some (low, high, rest))
      | _ => pure none
    | _ => pure none

/-- The counts of a repetition, where faults in them make the brace a character. -/
def tryCounts (cs : List Char) : Read (Option (Nat × Option Nat × List Char)) := fun s ↦
  match counts? cs s with
  | .ok r => .ok r
  | .error _ => .ok (none, s)

/-- The characters of names. -/
def isNameChar (c : Char) : Bool := Unicode.isAlphanumeric c || c = '_'

/-- A name between an opening and a closing text; a relative number may stand in its place. -/
def name? (opening closing : List Char) (relative : Bool) (cs : List Char) :
    Option (String × List Char) := do
  let cs ← Text.dropHead? opening cs
  let (sign, cs) := match relative, cs with
    | true, '-' :: rest => (['-'], rest)
    | _, _ => ([], cs)
  let run := cs.takeWhile isNameChar
  let rest ← Text.dropHead? closing (cs.dropWhile isNameChar)
  if run.isEmpty then none else some (String.ofList (sign ++ run), rest)

/-- The number that a name stands for, relative to the groups opened so far. -/
def groupOfNumber? (groups : Nat) (name : String) : Option Nat :=
  match name.toList with
  | '-' :: digits =>
    match decimal? digits with
    | some (n, []) => if n ≤ groups + 1 then some (groups + 1 - n) else none
    | _ => none
  | digits =>
    match decimal? digits with
    | some (n, []) => some n
    | _ => none

/-- A reference to a group by its name. -/
def namedBackref (opening closing : List Char) (relative : Bool) (cs : List Char) :
    Read (Node × List Char) := do
  match name? opening closing relative cs with
  | none => fail .invalidGroupName
  | some (name, rest) =>
    let s ← get
    let group := ((s.names.find? (·.1 = name)).map (·.2)) <|> groupOfNumber? s.groups name
    match group with
    | none => fail .unknownGroupName
    | some group =>
      set { s with referenced := group :: s.referenced }
      pure (.backref group, rest)

/-- A reference to a group by its number, which has to be less than half the pattern's size. -/
def numberedBackref (size : Nat) (cs : List Char) : Read (Node × List Char) := do
  match decimal? cs with
  | some (group, rest) =>
    if group < size / 2 then
      modify fun s ↦ { s with numbered := true, referenced := group :: s.referenced }
      pure (.backref group, rest)
    else fail .invalidBackreference
  | none => fail .invalidBackreference

/-- The number of hexadecimal digits. -/
def hexValue (digits : List Char) : Nat :=
  digits.foldl (fun n c ↦ n * 16 +
    (if c.isDigit then c.toNat - 48 else c.toLower.toNat - 87)) 0

/-- A hexadecimal digit. -/
def isHexDigit (c : Char) : Bool :=
  c.isDigit || ('a' ≤ c.toLower && c.toLower ≤ 'f' && c.toNat < 128)

/-- The character of an escape with `width` hexadecimal digits, or any number up to eight between
braces. -/
def hexChar (width : Nat) (cs : List Char) : Except Fault (Char × List Char) := do
  let (digits, rest) ←
    if (cs.take width).length = width ∧ (cs.take width).all isHexDigit then
      pure (cs.take width, cs.drop width)
    else
      match cs with
      | '\x7b' :: rest =>
        let run := rest.takeWhile isHexDigit
        match rest.dropWhile isHexDigit with
        | '\x7d' :: after =>
          if run.isEmpty ∨ run.length > 8 then .error .invalidHex else pure (run, after)
        | _ => .error .invalidHex
      | _ => .error .invalidHex
  let n := hexValue digits
  if n < 0xD800 ∨ (0xDFFF < n ∧ n ≤ 0x10FFFF) then .ok (Char.ofNat n, rest)
  else .error .invalidCodePoint

/-- What an escape inside or outside brackets stands for. -/
inductive Escape
  | node (n : Node)
  | char (c : Char) (folds : Bool)
  | set (token : Class.Token)
  /-- A set of hexadecimal digits, or of the other characters. -/
  | hexDigits (negated : Bool)

/-- The characters with an escape of their own. -/
def controlEscape? : Char → Option Char
  | 'a' => some (Char.ofNat 7)
  | 'b' => some (Char.ofNat 8)
  | 'f' => some (Char.ofNat 12)
  | 'n' => some '\n'
  | 'r' => some '\r'
  | 't' => some '\t'
  | 'v' => some (Char.ofNat 11)
  | 'e' => some (Char.ofNat 27)
  | _ => none

/-- An escape behind its backslash. -/
def escape (size : Nat) (inClass : Bool) (cs : List Char) : Read (Escape × List Char) := do
  let ignoreCase := (← get).flags.ignoreCase
  let asserted (a : Assertion) (rest : List Char) : Read (Escape × List Char) :=
    pure (.node (.assertion a), rest)
  let boundary (a : Assertion) (rest : List Char) : Read (Escape × List Char) :=
    match rest with
    | '\x7b' :: _ => fail .invalidEscape
    | _ => asserted a rest
  let hex (width : Nat) (rest : List Char) : Read (Escape × List Char) :=
    match hexChar width rest with
    | .ok (c, rest) => pure (.char c true, rest)
    | .error e => fail e
  let property (negated : Bool) (name rest : List Char) : Read (Escape × List Char) :=
    match Class.property ignoreCase negated (String.ofList name) with
    | .ok s => pure (.set (.named s), rest)
    | .error e => fail e
  let literal (c : Char) (rest : List Char) : Read (Escape × List Char) :=
    match controlEscape? c with
    | some c => pure (.char c false, rest)
    | none =>
      if c.isAlpha ∧ ¬['k', 'A', 'z', 'b', 'B', 'K', 'G'].contains c then fail .invalidEscape
      else pure (.char c false, rest)
  match cs with
  | [] => fail .trailingBackslash
  | c :: rest =>
    if c.isDigit then
      let (node, rest) ← numberedBackref size cs
      pure (.node node, rest)
    else if c = 'k' ∧ ¬inClass then
      let (node, rest) ← match rest with
        | q :: _ =>
          if q.toNat = 39 then namedBackref [q] [q] true rest
          else namedBackref ['<'] ['>'] true rest
        | [] => namedBackref ['<'] ['>'] true rest
      pure (.node node, rest)
    else if c = 'A' ∧ ¬inClass then asserted .textStart rest
    else if c = 'z' ∧ ¬inClass then asserted .textEnd rest
    else if c = 'b' ∧ ¬inClass then boundary .wordBoundary rest
    else if c = 'B' ∧ ¬inClass then boundary .notWordBoundary rest
    else if c = '<' ∧ ¬inClass then asserted .wordStart rest
    else if c = '>' ∧ ¬inClass then asserted .wordEnd rest
    else if c = 'h' then pure (.hexDigits false, rest)
    else if c = 'H' then pure (.hexDigits true, rest)
    else if c = 'x' then hex 2 rest
    else if c = 'u' then hex 4 rest
    else if c = 'U' then hex 8 rest
    else if c = 'p' ∨ c = 'P' then
      match rest with
      | [] => fail .invalidEscape
      | '\x7b' :: rest =>
        let name := rest.takeWhile (· ≠ '\x7d')
        match rest.dropWhile (· ≠ '\x7d') with
        | _ :: after => property (c = 'P') name after
        | [] => fail .unclosedPropertyName
      | letter :: rest => property (c = 'P') [letter] rest
    else if c = 'K' ∧ ¬inClass then pure (.node .keepOut, rest)
    else if c = 'G' ∧ ¬inClass then pure (.node .searchStart, rest)
    else
      match Class.perl? c with
      | some s => pure (.set (.named s), rest)
      | none => literal c rest

/-- Hexadecimal digits. -/
def hexDigitSet : CharSet := CharSet.ofRanges [(48, 57), (65, 70), (97, 102)]

/-- The tokens of a class up to the bracket that closes it; `depth` counts the open brackets. -/
def classTokens (size : Nat) (depth : Nat) (acc : List Class.Token) (cs : List Char) :
    Nat → Read (List Class.Token × List Char)
  | 0 => fail .invalidClass
  | fuel + 1 =>
    match cs with
    | [] => fail .invalidClass
    | '\\' :: rest => do
      let (e, after) ← escape size true rest
      match e with
      | .char c _ => classTokens size depth (.escaped c :: acc) after fuel
      | .set token => classTokens size depth (token :: acc) after fuel
      | .hexDigits negated =>
        let inner := (if negated then "^" else "") ++ "0-9A-Fa-f"
        let tokens := ('[' :: inner.toList ++ [']']).map Class.Token.plain
        classTokens size depth (tokens.reverse ++ acc) after fuel
      | .node _ => fail .invalidClass
    | '[' :: rest => classTokens size (depth + 1) (.plain '[' :: acc) rest fuel
    | ']' :: rest =>
      let acc := .plain ']' :: acc
      if depth ≤ 1 then pure (acc.reverse, rest) else classTokens size (depth - 1) acc rest fuel
    | c :: rest => classTokens size depth (.plain c :: acc) rest fuel

/-- A class behind its opening bracket. -/
def parseClass (size : Nat) (cs : List Char) : Read (Node × List Char) := do
  let (start, cs) := match cs with
    | '^' :: rest => ([Class.Token.plain '^'], rest)
    | _ => ([], cs)
  let (start, cs) := match cs with
    | ']' :: rest => (.plain ']' :: start, rest)
    | _ => (start, cs)
  let (tokens, rest) ← classTokens size 1 start cs (cs.length + 1)
  match Class.read (← get).flags.ignoreCase tokens with
  | .ok s => pure (.set s, rest)
  | .error e => fail e

/-- Sets or clears a flag, if the letter names one. -/
def setFlag? (c : Char) (on : Bool) (f : Flags) : Option Flags :=
  match c with
  | 'i' => some { f with ignoreCase := on }
  | 'm' => some { f with multiLine := on }
  | 's' => some { f with dotNewline := on }
  | 'U' => some { f with swapGreed := on }
  | 'x' => some { f with ignoreSpace := on }
  | _ => none

/-- The end of a list of flags. -/
inductive FlagsEnd
  | closed
  | opened

/-- Inline flags up to the sign that ends them; `previous` is the last character read. -/
def parseFlags (negated : Bool) (previous : Option Char) (cs : List Char) :
    Nat → Read (FlagsEnd × List Char)
  | 0 => fail .unknownFlag
  | fuel + 1 => do
    match ← blank cs with
    | [] => fail .unclosedGroup
    | ')' :: rest =>
      if previous.isNone ∨ previous = some '-' then fail .unknownFlag
      else pure (.closed, rest)
    | ':' :: rest =>
      if previous = some '-' then fail .unknownFlag else pure (.opened, rest)
    | '-' :: rest =>
      if negated then fail .unknownFlag else parseFlags true (some '-') rest fuel
    | 'u' :: rest =>
      if negated then fail .unknownFlag else parseFlags negated (some 'u') rest fuel
    | c :: rest =>
      match setFlag? c (!negated) (← get).flags with
      | none => fail .unknownFlag
      | some flags =>
        modify fun s ↦ { s with flags := flags }
        parseFlags negated (some c) rest fuel

/-- The closing parenthesis of a group. -/
def closeGroup (cs : List Char) : Read (List Char) := do
  match ← blank cs with
  | ')' :: rest => pure rest
  | [] => fail .unclosedGroup
  | _ => fail .unreadable

/-- The parts of a sequence as one node. -/
def sequence : List Node → Node
  | [] => .empty
  | [n] => n
  | ns => .concat ns

/-- The condition of a conditional: a reference to a group asks whether the group matched. -/
def asCondition : Node → Node
  | .backref group => .groupMatched group
  | n => n

/-- A conditional of its parts. -/
def conditionalOf (condition body : Node) : Node :=
  let (yes, no) := match body with
    | .alt (first :: [second]) => (first, second)
    | .alt (first :: others) => (first, .alt others)
    | n => (n, .empty)
  if yes.isEmpty ∧ no.isEmpty then asCondition condition
  else .conditional (asCondition condition) yes no

/-- The kind of a group, read off the text behind its parenthesis. -/
inductive Opening
  | look (kind : Look)
  | atomic
  | capture (name : Option String)
  | reference
  | condition
  | flags

/-- The kind of a group and the text inside it. -/
def opening (cs : List Char) : Except Fault (Opening × List Char) :=
  match cs with
  | '?' :: '=' :: rest => .ok (.look .ahead, rest)
  | '?' :: '!' :: rest => .ok (.look .notAhead, rest)
  | '?' :: '<' :: '=' :: rest => .ok (.look .behind, rest)
  | '?' :: '<' :: '!' :: rest => .ok (.look .notBehind, rest)
  | '?' :: '<' :: rest => named ('<' :: rest)
  | '?' :: 'P' :: '<' :: rest => named ('<' :: rest)
  | '?' :: 'P' :: '=' :: rest => .ok (.reference, rest)
  | '?' :: '>' :: rest => .ok (.atomic, rest)
  | '?' :: '(' :: rest => .ok (.condition, rest)
  | '?' :: rest => .ok (.flags, rest)
  | rest => .ok (.capture none, rest)
where
  named (cs : List Char) : Except Fault (Opening × List Char) :=
    match name? ['<'] ['>'] false cs with
    | some (name, rest) => .ok (.capture (some name), rest)
    | none => .error .invalidGroupName

/-- The greatest depth of groups. -/
def maxDepth : Nat := 64

mutual

/-- Alternatives up to a closing parenthesis or the end; `size` is the size of the whole pattern
in bytes. -/
def parseAlternatives (size depth : Nat) (cs : List Char) (fuel : Nat) :
    Read (Node × List Char) :=
  match fuel with
  | 0 => fail .nestedTooDeep
  | fuel + 1 => do
    let (first, cs) ← parseSequence size depth [] cs fuel
    match ← blank cs with
    | '|' :: rest => parseMore size depth [first] rest fuel
    | cs =>
      let s ← get
      if s.numbered ∧ ¬s.names.isEmpty then fail .mixedBackreferences
      pure (first, cs)
termination_by structural fuel

/-- Further alternatives; the ones read so far stand reversed. -/
def parseMore (size depth : Nat) (acc : List Node) (cs : List Char) (fuel : Nat) :
    Read (Node × List Char) :=
  match fuel with
  | 0 => fail .nestedTooDeep
  | fuel + 1 => do
    let (next, cs) ← parseSequence size depth [] cs fuel
    match ← blank cs with
    | '|' :: rest => parseMore size depth (next :: acc) rest fuel
    | cs => pure (.alt (next :: acc).reverse, cs)
termination_by structural fuel

/-- The parts of one alternative; the ones read so far stand reversed. -/
def parseSequence (size depth : Nat) (acc : List Node) (cs : List Char) (fuel : Nat) :
    Read (Node × List Char) :=
  match fuel with
  | 0 => fail .nestedTooDeep
  | fuel + 1 => do
    if cs.isEmpty then pure (sequence acc.reverse, [])
    else
      let (part, rest) ← parsePiece size depth cs fuel
      if rest.length = cs.length then pure (sequence acc.reverse, cs)
      else
        parseSequence size depth (if part.isEmpty then acc else part :: acc) rest fuel
termination_by structural fuel

/-- One part with its quantifier. -/
def parsePiece (size depth : Nat) (cs : List Char) (fuel : Nat) :
    Read (Node × List Char) :=
  match fuel with
  | 0 => fail .nestedTooDeep
  | fuel + 1 => do
    let (child, rest) ← parseAtom size depth cs fuel
    let rest ← blank rest
    let counts ← match rest with
      | '?' :: after => pure (some (0, some 1, after))
      | '*' :: after => pure (some (0, none, after))
      | '+' :: after => pure (some (1, none, after))
      | '\x7b' :: after => tryCounts after
      | _ => pure none
    match counts with
    | none => pure (child, rest)
    | some (low, high, after) =>
      if ¬child.isRepeatable then fail .notRepeatable
      let after ← blank after
      let (lazy, after) := match after with
        | '?' :: rest => (true, rest)
        | rest => (false, rest)
      let greedy := lazy == (← get).flags.swapGreed
      let node := Node.repeated child low high greedy
      match after with
      | '+' :: rest => pure (.atomic node, rest)
      | rest => pure (node, rest)
termination_by structural fuel

/-- One part without quantifier; where none starts, nothing is taken. -/
def parseAtom (size depth : Nat) (cs : List Char) (fuel : Nat) :
    Read (Node × List Char) :=
  match fuel with
  | 0 => fail .nestedTooDeep
  | fuel + 1 => do
    let cs ← blank cs
    let flags := (← get).flags
    match cs with
    | [] => pure (.empty, [])
    | c :: rest =>
      if c = '.' then pure (.any flags.dotNewline, rest)
      else if c = '^' then
        pure (.assertion (if flags.multiLine then .lineStart else .textStart), rest)
      else if c = '$' then
        pure (.assertion (if flags.multiLine then .lineEnd else .textEnd), rest)
      else if c = '(' then parseGroup size (depth + 1) rest fuel
      else if c = '\\' then
        let (e, rest) ← escape size false rest
        match e with
        | .node n => pure (n, rest)
        | .char c folds => pure (.literal c (folds && flags.ignoreCase), rest)
        | .set (.named s) => pure (.set s, rest)
        | .set (.plain c) => pure (.literal c false, rest)
        | .set (.escaped c) => pure (.literal c false, rest)
        | .hexDigits negated =>
          pure (.set (if negated then hexDigitSet.complement else hexDigitSet), rest)
      else if ['+', '*', '?', '|', ')'].contains c then pure (.empty, cs)
      else if c = '[' then parseClass size rest
      else pure (.literal c flags.ignoreCase, rest)
termination_by structural fuel

/-- A group behind its opening parenthesis. -/
def parseGroup (size depth : Nat) (cs : List Char) (fuel : Nat) :
    Read (Node × List Char) :=
  match fuel with
  | 0 => fail .nestedTooDeep
  | fuel + 1 => do
    if depth ≥ maxDepth then fail .nestedTooDeep
    let cs ← blank cs
    match opening cs with
    | .error e => fail e
    | .ok (.reference, rest) => namedBackref [] [')'] false rest
    | .ok (.condition, rest) => parseConditional size depth rest fuel
    | .ok (.flags, rest) =>
      let before := (← get).flags
      let (ended, rest) ← parseFlags false none rest (rest.length + 1)
      match ended with
      | .closed => pure (.empty, rest)
      | .opened =>
        let (child, rest) ← parseAlternatives size depth rest fuel
        match rest with
        | ')' :: rest =>
          modify fun s ↦ { s with flags := before }
          pure (child, rest)
        | [] => fail .unclosedGroup
        | _ => fail .unreadable
    | .ok (.look kind, rest) =>
      let (child, rest) ← parseAlternatives size depth rest fuel
      pure (.look kind child, ← closeGroup rest)
    | .ok (.atomic, rest) =>
      let (child, rest) ← parseAlternatives size depth rest fuel
      pure (.atomic child, ← closeGroup rest)
    | .ok (.capture name, rest) =>
      let index := (← get).groups + 1
      modify fun s ↦ { s with
        groups := index
        names := match name with
          | some name => (name, index) :: s.names
          | none => s.names }
      let (child, rest) ← parseAlternatives size depth rest fuel
      pure (.group index child, ← closeGroup rest)
termination_by structural fuel

/-- A conditional behind the parenthesis of its condition. -/
def parseConditional (size depth : Nat) (cs : List Char) (fuel : Nat) :
    Read (Node × List Char) :=
  match fuel with
  | 0 => fail .nestedTooDeep
  | fuel + 1 => do
    let (condition, rest) ← match cs with
      | [] => fail .unclosedGroup
      | c :: _ =>
        if c.toNat = 39 then namedBackref [c] [c] true cs
        else if c = '<' then namedBackref ['<'] ['>'] true cs
        else if c.isDigit then numberedBackref size cs
        else parseAlternatives size depth cs fuel
    let rest ← closeGroup rest
    let (body, after) ← parseAlternatives size depth rest fuel
    if after.length = rest.length then
      match condition with
      | .backref group =>
        pure (.groupMatched group, ← closeGroup after)
      | _ => fail .unreadable
    else
      pure (conditionalOf condition body, ← closeGroup after)
termination_by structural fuel

end

end Parser

/-- A pattern that was read: its tree, the groups referred to, and the number of groups. -/
structure Parsed where
  node : Node
  referenced : List Nat
  groups : Nat

/-- Reads a pattern. -/
def Parsed.ofText (text : String) : Except Fault Parsed :=
  let cs := text.toList
  match (Parser.parseAlternatives text.utf8ByteSize 0 cs (8 * cs.length + 16)).run {} with
  | .error e => .error e
  | .ok ((node, rest), s) =>
    if rest.isEmpty then .ok ⟨node, s.referenced, s.groups⟩ else .error .unreadable

end EtcdBackup.Pattern
