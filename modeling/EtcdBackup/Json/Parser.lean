import EtcdBackup.Json.Basic

/-!
# Reading JSON

`Json.parse` reads the text of one JSON value, with blanks around it, and refuses everything
else: a rest behind the value, leading zeros, raw control characters and lone surrogates in
strings, numbers beyond the range of doubles, and values nested deeper than 127 levels. The
reader is structurally recursive on a bound that the length of the text supplies.
-/

set_option autoImplicit false
set_option relaxedAutoImplicit false

namespace EtcdBackup.Json

/-- Blanks between tokens. -/
def isBlank (c : Char) : Bool := c = ' ' || c = '\n' || c = '\r' || c = '\t'

/-- The text without leading blanks. -/
def skipBlanks (cs : List Char) : List Char := cs.dropWhile isBlank

/-- The value of a hexadecimal digit. -/
def hexValue? (c : Char) : Option Nat :=
  if '0' ≤ c ∧ c ≤ '9' then some (c.toNat - 48)
  else if 'a' ≤ c ∧ c ≤ 'f' then some (c.toNat - 87)
  else if 'A' ≤ c ∧ c ≤ 'F' then some (c.toNat - 55)
  else none

/-- Four hexadecimal digits. -/
def readUnit : List Char → Option (Nat × List Char)
  | a :: b :: c :: d :: rest => do
    let a ← hexValue? a
    let b ← hexValue? b
    let c ← hexValue? c
    let d ← hexValue? d
    some (((a * 16 + b) * 16 + c) * 16 + d, rest)
  | _ => none

/-- The character of an escape, behind its backslash; a high surrogate takes the escape of its
low partner with it. -/
def readEscape : List Char → Option (Char × List Char)
  | '"' :: rest => some ('"', rest)
  | '\\' :: rest => some ('\\', rest)
  | '/' :: rest => some ('/', rest)
  | 'b' :: rest => some (Char.ofNat 8, rest)
  | 'f' :: rest => some (Char.ofNat 12, rest)
  | 'n' :: rest => some ('\n', rest)
  | 'r' :: rest => some ('\r', rest)
  | 't' :: rest => some ('\t', rest)
  | 'u' :: rest => do
    let (first, rest) ← readUnit rest
    if 0xD800 ≤ first ∧ first ≤ 0xDBFF then
      match rest with
      | '\\' :: 'u' :: rest =>
        let (second, rest) ← readUnit rest
        if 0xDC00 ≤ second ∧ second ≤ 0xDFFF then
          some (Char.ofNat (0x10000 + (first - 0xD800) * 0x400 + (second - 0xDC00)), rest)
        else none
      | _ => none
    else if 0xDC00 ≤ first ∧ first ≤ 0xDFFF then none
    else some (Char.ofNat first, rest)
  | _ => none

/-- The rest of a string behind its opening quote; `bound` limits the number of characters. -/
def readString (bound : Nat) (acc : List Char) (cs : List Char) :
    Option (String × List Char) :=
  match bound, cs with
  | 0, _ => none
  | _, [] => none
  | _, '"' :: rest => some (String.ofList acc.reverse, rest)
  | bound + 1, '\\' :: rest =>
    match readEscape rest with
    | none => none
    | some (c, rest) => readString bound (c :: acc) rest
  | bound + 1, c :: rest => if c.toNat < 32 then none else readString bound (c :: acc) rest

/-- The number that a run of decimal digits denotes. -/
def digitsValue (digits : List Char) : Nat :=
  digits.foldl (fun n c ↦ n * 10 + (c.toNat - 48)) 0

/-- The number with the given sign, whole digits, fraction digits and exponent. -/
def makeNumber (negative : Bool) (whole fraction : List Char) (exponent : Option Int) :
    Option Number :=
  let integral := fraction.isEmpty && exponent.isNone
  let value := digitsValue whole
  if integral ∧ ¬negative ∧ value < UInt64.size then some (.int value)
  else if integral ∧ negative ∧ value ≠ 0 ∧ value ≤ 1 <<< 63 then some (.int (-value))
  else
    let decimal : Decimal :=
      ⟨digitsValue (whole ++ fraction), exponent.getD 0 - fraction.length⟩
    (Binary64.nearest decimal).map fun x ↦ .float negative x.shortest

/-- A number. -/
def readNumber (cs : List Char) : Option (Number × List Char) := do
  let (negative, cs) := match cs with
    | '-' :: rest => (true, rest)
    | _ => (false, cs)
  let whole := cs.takeWhile Char.isDigit
  let cs := cs.dropWhile Char.isDigit
  if whole.isEmpty ∨ (whole.head? = some '0' ∧ whole.length > 1) then none
  let (fraction, cs) ← match cs with
    | '.' :: rest =>
      let digits := rest.takeWhile Char.isDigit
      if digits.isEmpty then none else some (digits, rest.dropWhile Char.isDigit)
    | _ => some ([], cs)
  let (exponent, cs) ← match cs with
    | e :: rest =>
      if e = 'e' ∨ e = 'E' then
        let (minus, rest) := match rest with
          | '-' :: r => (true, r)
          | '+' :: r => (false, r)
          | _ => (false, rest)
        let digits := rest.takeWhile Char.isDigit
        if digits.isEmpty then none
        else
          let value : Int := digitsValue digits
          some (some (if minus then -value else value), rest.dropWhile Char.isDigit)
      else some (none, cs)
    | [] => some (none, cs)
  let number ← makeNumber negative whole fraction exponent
  some (number, cs)

mutual

/-- One value; `depth` limits the nesting and `bound` the number of steps. -/
def readValue (bound depth : Nat) (cs : List Char) : Option (Json × List Char) :=
  match bound with
  | 0 => none
  | bound + 1 =>
    match cs with
    | 'n' :: 'u' :: 'l' :: 'l' :: rest => some (.null, rest)
    | 't' :: 'r' :: 'u' :: 'e' :: rest => some (.bool true, rest)
    | 'f' :: 'a' :: 'l' :: 's' :: 'e' :: rest => some (.bool false, rest)
    | '"' :: rest => (readString (rest.length + 1) [] rest).map fun (s, r) ↦ (.string s, r)
    | '[' :: rest =>
      if depth = 0 then none
      else
        match skipBlanks rest with
        | ']' :: rest => some (.array [], rest)
        | rest => readItems bound (depth - 1) [] rest
    | '\x7b' :: rest =>
      if depth = 0 then none
      else
        match skipBlanks rest with
        | '\x7d' :: rest => some (.object [], rest)
        | rest => readMembers bound (depth - 1) [] rest
    | cs => (readNumber cs).map fun (n, r) ↦ (.number n, r)

/-- The items of an array up to its closing bracket. -/
def readItems (bound depth : Nat) (acc : List Json) (cs : List Char) :
    Option (Json × List Char) :=
  match bound with
  | 0 => none
  | bound + 1 =>
    match readValue bound depth cs with
    | none => none
    | some (item, rest) =>
      match skipBlanks rest with
      | ',' :: rest => readItems bound depth (item :: acc) (skipBlanks rest)
      | ']' :: rest => some (.array (item :: acc).reverse, rest)
      | _ => none

/-- The members of an object up to its closing brace. -/
def readMembers (bound depth : Nat) (acc : List (String × Json)) (cs : List Char) :
    Option (Json × List Char) :=
  match bound with
  | 0 => none
  | bound + 1 =>
    match cs with
    | '"' :: rest =>
      match readString (rest.length + 1) [] rest with
      | none => none
      | some (key, rest) =>
        match skipBlanks rest with
        | ':' :: rest =>
          match readValue bound depth (skipBlanks rest) with
          | none => none
          | some (value, rest) =>
            match skipBlanks rest with
            | ',' :: rest => readMembers bound depth ((key, value) :: acc) (skipBlanks rest)
            | '\x7d' :: rest => some (ofFields ((key, value) :: acc).reverse, rest)
            | _ => none
        | _ => none
    | _ => none

end

/-- The value that a text denotes, `none` if it is not JSON. -/
def parse (text : String) : Option Json :=
  let cs := skipBlanks text.toList
  match readValue (cs.length + 1) 127 cs with
  | some (value, rest) => if (skipBlanks rest).isEmpty then some value else none
  | none => none

end EtcdBackup.Json
