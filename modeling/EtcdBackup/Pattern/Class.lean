import EtcdBackup.Pattern.Fault
import EtcdBackup.Unicode.Lookup

/-!
# Character classes between brackets

The inside of brackets is first cut into `Token`s: characters as they stand, characters that were
escaped, and sets named by an escape. `Class.read` reads the set off the tokens. Classes nest, and
`&&`, `--` and `~~` between parts of a class take the intersection, the difference and the
symmetric difference, from left to right.
-/

set_option autoImplicit false
set_option relaxedAutoImplicit false

namespace EtcdBackup.Pattern.Class

/-- A piece of the inside of brackets. -/
inductive Token
  | plain (c : Char)
  | escaped (c : Char)
  | named (chars : CharSet)

/-- How two parts of a class are combined. -/
inductive Op
  | inter
  | diff
  | symmDiff

/-- The combination of two sets. -/
def Op.apply : Op → CharSet → CharSet → CharSet
  | .inter, s, t => s.inter t
  | .diff, s, t => s.diff t
  | .symmDiff, s, t => s.symmDiff t

/-- The set, with the members that differ in case only if case is ignored. -/
def fold (ignoreCase : Bool) (s : CharSet) : CharSet :=
  if ignoreCase then Unicode.foldCase s else s

/-- The set with a name, or with a property and its value; the names stand behind `\p` or `\P`. -/
def property (ignoreCase negated : Bool) (name : String) : Except Fault CharSet :=
  let rec cut (before : List Char) : List Char → Option (List Char × Bool × List Char)
    | '!' :: '=' :: rest => some (before.reverse, true, rest)
    | c :: rest => cut (c :: before) rest
    | [] => none
  let rec cutAt (mark : Char) (before : List Char) :
      List Char → Option (List Char × Bool × List Char)
    | c :: rest =>
      if c = mark then some (before.reverse, false, rest) else cutAt mark (c :: before) rest
    | [] => none
  let cs := name.toList
  let found :=
    match cut [] cs <|> cutAt ':' [] cs <|> cutAt '=' [] cs with
    | some (property, unequal, value) =>
      (Unicode.valued? (String.ofList property) (String.ofList value)).map fun s ↦ (unequal, s)
    | none => (Unicode.named? name).map fun s ↦ (false, s)
  match found with
  | none => .error .unknownProperty
  | some (unequal, s) =>
    let s := fold ignoreCase s
    .ok (if negated != unequal then s.complement else s)

/-- The sets named by single letters behind a backslash; a capital letter names the rest. -/
def perl? (letter : Char) : Option CharSet :=
  match letter with
  | 'd' => some (Unicode.digits ())
  | 'D' => some (Unicode.digits ()).complement
  | 's' => some (Unicode.spaces ())
  | 'S' => some (Unicode.spaces ()).complement
  | 'w' => some (Unicode.wordChars ())
  | 'W' => some (Unicode.wordChars ()).complement
  | _ => none

/-- The sets of ASCII characters with names of their own. -/
def ascii? (name : String) : Option CharSet :=
  let lower := (97, 122)
  let upper := (65, 90)
  let digit := (48, 57)
  let punct := [(33, 47), (58, 64), (91, 96), (123, 126)]
  let ranges := match name with
    | "alnum" => some [digit, upper, lower]
    | "alpha" => some [upper, lower]
    | "ascii" => some [(0, 127)]
    | "blank" => some [(9, 9), (32, 32)]
    | "cntrl" => some [(0, 31), (127, 127)]
    | "digit" => some [digit]
    | "graph" => some [(33, 126)]
    | "lower" => some [lower]
    | "print" => some [(32, 126)]
    | "punct" => some punct
    | "space" => some [(9, 13), (32, 32)]
    | "upper" => some [upper]
    | "word" => some [digit, upper, (95, 95), lower]
    | "xdigit" => some [digit, (65, 70), (97, 102)]
    | _ => none
  ranges.map CharSet.ofRanges

/-- The characters at the front of tokens up to a colon. -/
def untilColon : List Token → List Char × List Token
  | .plain ':' :: rest => ([], .plain ':' :: rest)
  | .plain c :: rest =>
    let (name, rest) := untilColon rest
    (c :: name, rest)
  | rest => ([], rest)

/-- A named set of ASCII characters behind an opening bracket, such as `:alpha:]`. -/
def asciiClass? (ignoreCase : Bool) (tokens : List Token) : Option (CharSet × List Token) :=
  match tokens with
  | .plain ':' :: rest =>
    let (negated, rest) := match rest with
      | .plain '^' :: rest => (true, rest)
      | _ => (false, rest)
    match untilColon rest with
    | (name, .plain ':' :: .plain ']' :: rest) =>
      (ascii? (String.ofList name)).map fun s ↦
        let s := fold ignoreCase s
        (if negated then s.complement else s, rest)
    | _ => none
  | _ => none

/-- A class that was opened and not closed yet: whether it is negated, what stands in front of a
pending operation, and the union read since. -/
structure Frame where
  negated : Bool
  pending : Option (CharSet × Op)
  union : CharSet

namespace Frame

/-- Adds a set to the union. -/
def add (f : Frame) (s : CharSet) : Frame := { f with union := f.union.union s }

/-- The set read so far, with the pending operation carried out. -/
def value (ignoreCase : Bool) (f : Frame) : CharSet :=
  match f.pending with
  | none => f.union
  | some (left, op) => op.apply (fold ignoreCase left) (fold ignoreCase f.union)

/-- The frame behind an operation sign. -/
def operate (ignoreCase : Bool) (f : Frame) (op : Op) : Frame :=
  { f with pending := some (f.value ignoreCase, op), union := CharSet.empty }

/-- The set of a class that is closed. -/
def close (ignoreCase : Bool) (f : Frame) : CharSet :=
  let s := fold ignoreCase (f.value ignoreCase)
  if f.negated then s.complement else s

end Frame

/-- The leading dashes inside a fresh class, and a leading closing bracket, stand for
themselves. -/
def leading (f : Frame) : Bool → List Token → Frame × List Token
  | _, .plain '-' :: rest =>
    leading (f.add (CharSet.singleton '-'.toNat)) false rest
  | true, .plain ']' :: rest => (f.add (CharSet.singleton ']'.toNat), rest)
  | _, rest => (f, rest)

/-- Opens a class behind its bracket. -/
def openFrame (tokens : List Token) : Frame × List Token :=
  let (negated, rest) := match tokens with
    | .plain '^' :: rest => (true, rest)
    | _ => (false, tokens)
  leading ⟨negated, none, CharSet.empty⟩ true rest

/-- The character or set of one token. -/
def Token.item : Token → Char ⊕ CharSet
  | .plain c => .inl c
  | .escaped c => .inl c
  | .named s => .inr s

/-- One character, range or set inside a class. -/
def readItem (token : Token) (rest : List Token) : Except Fault (CharSet × List Token) :=
  let single := match token.item with
    | .inl c => CharSet.singleton c.toNat
    | .inr s => s
  match rest with
  | [] => .error .invalidClass
  | [.plain '-'] => .error .invalidClass
  | .plain '-' :: .plain ']' :: _ => .ok (single, rest)
  | .plain '-' :: .plain '-' :: _ => .ok (single, rest)
  | .plain '-' :: last :: after =>
    match token.item, last.item with
    | .inl a, .inl b =>
      if a ≤ b then .ok (CharSet.ofRange a.toNat b.toNat, after) else .error .invalidClass
    | _, _ => .error .invalidClass
  | _ => .ok (single, rest)

/-- Reads on inside the classes that are open, the innermost first; `fuel` limits the steps. -/
def readFrom (ignoreCase : Bool) (frame : Frame) (outer : List Frame) (tokens : List Token) :
    Nat → Except Fault CharSet
  | 0 => .error .invalidClass
  | fuel + 1 =>
    match tokens with
    | [] => .error .invalidClass
    | .plain '[' :: rest =>
      match asciiClass? ignoreCase rest with
      | some (s, rest) => readFrom ignoreCase (frame.add s) outer rest fuel
      | none =>
        let (inner, rest) := openFrame rest
        readFrom ignoreCase inner (frame :: outer) rest fuel
    | .plain ']' :: rest =>
      let s := frame.close ignoreCase
      match outer with
      | [] => if rest.isEmpty then .ok s else .error .invalidClass
      | next :: outer => readFrom ignoreCase (next.add s) outer rest fuel
    | .plain '&' :: .plain '&' :: rest =>
      readFrom ignoreCase (frame.operate ignoreCase .inter) outer rest fuel
    | .plain '-' :: .plain '-' :: rest =>
      readFrom ignoreCase (frame.operate ignoreCase .diff) outer rest fuel
    | .plain '~' :: .plain '~' :: rest =>
      readFrom ignoreCase (frame.operate ignoreCase .symmDiff) outer rest fuel
    | token :: rest =>
      match readItem token rest with
      | .error e => .error e
      | .ok (s, rest) => readFrom ignoreCase (frame.add s) outer rest fuel

/-- The set of a class, from its tokens behind the opening bracket to the closing one. -/
def read (ignoreCase : Bool) (tokens : List Token) : Except Fault CharSet :=
  let (frame, rest) := openFrame tokens
  readFrom ignoreCase frame [] rest (tokens.length + 1)

end EtcdBackup.Pattern.Class
