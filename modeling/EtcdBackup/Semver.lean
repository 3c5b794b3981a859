import EtcdBackup.Text.Debug

/-!
# Semantic versions

`Version.parse` reads `major.minor.patch`, with an optional pre-release behind a dash and
optional build metadata behind a plus sign, and names the place of a fault. `Version.text` writes
it back. Versions are totally ordered: a pre-release comes before its release, identifiers of
digits are compared as numbers and come before others, and build metadata decides last, where
leading zeros count too.
-/

set_option autoImplicit false
set_option relaxedAutoImplicit false

namespace EtcdBackup

/-- A semantic version; the identifiers of a pre-release and of build metadata stand without the
dots between them. -/
structure Version where
  major : Nat
  minor : Nat
  patch : Nat
  pre : List String := []
  build : List String := []
  deriving DecidableEq, Repr, Inhabited

/-- The parts of a version, in their order. -/
inductive Version.Part
  | major
  | minor
  | patch
  | pre
  | build
  deriving DecidableEq, Repr

/-- Why a text is no version. -/
inductive Version.Fault
  | empty
  | endsIn (part : Version.Part)
  | unexpected (part : Version.Part) (c : Char)
  | unexpectedAfter (part : Version.Part) (c : Char)
  | leadingZero (part : Version.Part)
  | tooLarge (part : Version.Part)
  | emptySegment (part : Version.Part)
  deriving DecidableEq, Repr

namespace Version

/-- The name of a part in messages. -/
def Part.name : Part → String
  | .major => "major version number"
  | .minor => "minor version number"
  | .patch => "patch version number"
  | .pre => "pre-release identifier"
  | .build => "build metadata"

/-- The wording of a fault. -/
def Fault.message : Fault → String
  | .empty => "empty string, expected a semver version"
  | .endsIn p => s!"unexpected end of input while parsing {p.name}"
  | .unexpected p c => s!"unexpected character {Text.debugChar c} while parsing {p.name}"
  | .unexpectedAfter p c => s!"unexpected character {Text.debugChar c} after {p.name}"
  | .leadingZero p => s!"invalid leading zero in {p.name}"
  | .tooLarge p => s!"value of {p.name} exceeds u64::MAX"
  | .emptySegment p => s!"empty identifier segment in {p.name}"

/-- Digits in front of a text, added to the number read so far; `read` tells whether there was
one. -/
def readDigits (part : Part) (read : Bool) (value : Nat) (cs : List Char) :
    Except Fault (Nat × List Char) :=
  match cs with
  | [] => if read then .ok (value, []) else .error (.endsIn part)
  | c :: rest =>
    if c.isDigit then
      if read ∧ value = 0 then .error (.leadingZero part)
      else
        let next := value * 10 + (c.toNat - 48)
        if next < UInt64.size then readDigits part true next rest else .error (.tooLarge part)
    else if read then .ok (value, cs)
    else .error (.unexpected part c)

/-- A number without leading zeros, below `2 ^ 64`. -/
def readNumber (part : Part) (cs : List Char) : Except Fault (Nat × List Char) :=
  readDigits part false 0 cs

/-- The dot behind a part. -/
def readDot (part : Part) : List Char → Except Fault (List Char)
  | '.' :: rest => .ok rest
  | c :: _ => .error (.unexpectedAfter part c)
  | [] => .error (.endsIn part)

/-- The characters of identifiers. -/
def isIdentifierChar (c : Char) : Bool := c.isAlphanum || c = '-'

/-- Whether a text consists of digits. -/
def isNumeric (s : String) : Bool := s.toList.all Char.isDigit

/-- Identifiers with dots between them, up to the first other character; `segment` holds the
current identifier reversed and `done` the ones before it. -/
def readIdentifiers (part : Part) (segment : List Char) (done : List String)
    (cs : List Char) : Except Fault (List String × List Char) :=
  match cs with
  | [] => finish none [] segment done
  | c :: rest =>
    if isIdentifierChar c then readIdentifiers part (c :: segment) done rest
    else
      if c = '.' then
        match finish (some c) rest segment done with
        | .error e => .error e
        | .ok (ids, _) => readIdentifiers part [] ids.reverse rest
      else finish (some c) cs segment done
where
  finish (boundary : Option Char) (rest segment : List Char) (done : List String) :
      Except Fault (List String × List Char) :=
    if segment.isEmpty then
      if done.isEmpty ∧ boundary ≠ some '.' then .ok ([], rest) else .error (.emptySegment part)
    else
      let text := String.ofList segment.reverse
      if part = .pre ∧ isNumeric text ∧ segment.length > 1 ∧ segment.getLast? = some '0' then
        .error (.leadingZero part)
      else .ok ((text :: done).reverse, rest)

/-- At least one identifier. -/
def readSome (part : Part) (cs : List Char) : Except Fault (List String × List Char) := do
  let (ids, rest) ← readIdentifiers part [] [] cs
  if ids.isEmpty then .error (.emptySegment part) else .ok (ids, rest)

/-- The version that a text denotes. -/
def parse (text : String) : Except Fault Version := do
  if text.isEmpty then .error .empty
  let (major, cs) ← readNumber .major text.toList
  let cs ← readDot .major cs
  let (minor, cs) ← readNumber .minor cs
  let cs ← readDot .minor cs
  let (patch, cs) ← readNumber .patch cs
  let (pre, last, cs) ← match cs with
    | '-' :: rest => do
      let (ids, rest) ← readSome .pre rest
      pure (ids, Part.pre, rest)
    | _ => pure ([], Part.patch, cs)
  let (build, last, cs) ← match cs with
    | '+' :: rest => do
      let (ids, rest) ← readSome .build rest
      pure (ids, Part.build, rest)
    | _ => pure ([], last, cs)
  match cs with
  | [] => .ok ⟨major, minor, patch, pre, build⟩
  | c :: _ => .error (.unexpectedAfter last c)

/-- The text of a version. -/
def text (v : Version) : String :=
  let core := s!"{v.major}.{v.minor}.{v.patch}"
  let pre := if v.pre.isEmpty then "" else "-" ++ String.intercalate "." v.pre
  let build := if v.build.isEmpty then "" else "+" ++ String.intercalate "." v.build
  core ++ pre ++ build

/-- Order of two lists of identifiers; a proper initial part comes first. -/
def compareAll (one : String → String → Ordering) : List String → List String → Ordering
  | [], [] => .eq
  | [], _ :: _ => .lt
  | _ :: _, [] => .gt
  | a :: as, b :: bs => (one a b).then (compareAll one as bs)

/-- Order of two identifiers, where `numeric` orders those of digits. -/
def compareIdentifier (numeric : String → String → Ordering) (a b : String) : Ordering :=
  match isNumeric a, isNumeric b with
  | false, true => .gt
  | true, false => .lt
  | false, false => compare a b
  | true, true => numeric a b

/-- Numbers without leading zeros: the shorter is the smaller. -/
def compareNumber (a b : String) : Ordering := (compare a.length b.length).then (compare a b)

/-- Numbers with leading zeros: by value, then by the count of zeros. -/
def comparePadded (a b : String) : Ordering :=
  let value (s : String) := String.ofList (s.toList.dropWhile (· = '0'))
  (compareNumber (value a) (value b)).then (compare a.length b.length)

/-- Order of two pre-releases; the absence of one comes last. -/
def comparePre (a b : List String) : Ordering :=
  match a.isEmpty, b.isEmpty with
  | true, true => .eq
  | true, false => .gt
  | false, true => .lt
  | false, false => compareAll (compareIdentifier compareNumber) a b

/-- Order of build metadata; the absence of it counts as one empty identifier. -/
def compareBuild (a b : List String) : Ordering :=
  let ids (l : List String) := if l.isEmpty then [""] else l
  compareAll (compareIdentifier comparePadded) (ids a) (ids b)

/-- The order of versions. -/
def cmp (a b : Version) : Ordering :=
  (compare a.major b.major).then <| (compare a.minor b.minor).then <|
    (compare a.patch b.patch).then <| (comparePre a.pre b.pre).then (compareBuild a.build b.build)

instance : Ord Version := ⟨cmp⟩

/-- Whether a version is at least another. -/
def atLeast (v minimum : Version) : Bool := cmp v minimum ≠ .lt

/-- A text without leading letters `v`. -/
def withoutMark (s : String) : String := String.ofList (s.toList.dropWhile (· = 'v'))

end Version

end EtcdBackup
