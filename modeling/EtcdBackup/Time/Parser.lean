import EtcdBackup.Text.Blank
import EtcdBackup.Time.Instant

/-!
# Reading times

`Instant.parse` takes a date, one of `T`, `t` and a blank, a time of day and an offset from
universal time, and is looser than the internet profile of ISO 8601: years may be signed and long,
other numbers short, blanks may stand in front of every number and separator, and `UTC` is an
offset. A time that cannot be read is refused with one of five causes.
-/

set_option autoImplicit false
set_option relaxedAutoImplicit false

namespace EtcdBackup

/-- Why a text is no time. -/
inductive TimeError
  | tooShort
  | invalid
  | outOfRange
  | tooLong
  | impossible
  deriving DecidableEq, Repr

/-- The wording of a refusal. -/
def TimeError.message : TimeError → String
  | .tooShort => "premature end of input"
  | .invalid => "input contains invalid characters"
  | .outOfRange => "input is out of range"
  | .tooLong => "trailing input"
  | .impossible => "no possible date and time matching input"

namespace Instant.Parser

open Text

/-- A run of one to `width` digits, behind blanks. -/
def digits (width : Option Nat) (cs : List Char) : Except TimeError (Nat × List Char) :=
  match cs with
  | [] => .error .tooShort
  | c :: _ =>
    if ¬c.isDigit then .error .invalid
    else
      let run := cs.takeWhile Char.isDigit
      let run := match width with
        | none => run
        | some w => run.take w
      let value := run.foldl (fun n c ↦ n * 10 + (c.toNat - 48)) 0
      if value < 1 <<< 63 then .ok (value, cs.drop run.length) else .error .outOfRange

/-- A number of at most two digits within bounds. -/
def bounded (low high : Nat) (cs : List Char) : Except TimeError (Nat × List Char) := do
  let (value, rest) ← digits (some 2) (trimStart cs)
  if low ≤ value ∧ value ≤ high then .ok (value, rest) else .error .outOfRange

/-- A separator, behind blanks. -/
def separator (c : Char) (cs : List Char) : Except TimeError (List Char) :=
  match trimStart cs with
  | [] => .error .tooShort
  | d :: rest => if d = c then .ok rest else .error .invalid

/-- A year: four digits at most, or any number of them behind a sign. -/
def year (cs : List Char) : Except TimeError (Int × List Char) := do
  let (value, rest) ← match trimStart cs with
    | '-' :: rest => do
      let (n, rest) ← digits none rest
      pure (-(n : Int), rest)
    | '+' :: rest => do
      let (n, rest) ← digits none rest
      pure ((n : Int), rest)
    | rest => do
      let (n, rest) ← digits (some 4) rest
      pure ((n : Int), rest)
  if Int32.minValue.toInt ≤ value ∧ value ≤ Int32.maxValue.toInt then .ok (value, rest)
  else .error .outOfRange

/-- The fraction of a second in nanoseconds, digits behind the ninth dropped. -/
def fraction (cs : List Char) : Except TimeError (Nat × List Char) :=
  match cs with
  | '.' :: rest => do
    let (value, after) ← digits (some 9) rest
    let count := rest.length - after.length
    .ok (value * Nat.pow 10 (9 - count), after.dropWhile Char.isDigit)
  | _ => .ok (0, cs)

/-- Two ASCII digits in front of a text; too short if fewer than two bytes are left. -/
def twoDigits (high : Nat) (cs : List Char) : Except TimeError (Nat × List Char) :=
  match cs with
  | [] => .error .tooShort
  | [c] => if c.utf8Size < 2 then .error .tooShort else .error .invalid
  | a :: b :: rest =>
    if a.isDigit ∧ b.isDigit then
      let value := (a.toNat - 48) * 10 + (b.toNat - 48)
      if value ≤ high then .ok (value, rest) else .error .outOfRange
    else .error .invalid

/-- An offset from universal time, in seconds. -/
def offset (cs : List Char) : Except TimeError (Int × List Char) :=
  match cs with
  | [] => .error .tooShort
  | 'Z' :: rest => .ok (0, rest)
  | 'z' :: rest => .ok (0, rest)
  | u :: t :: c :: rest =>
    if u.toLower = 'u' ∧ t.toLower = 't' ∧ c.toLower = 'c' then .ok (0, rest)
    else signed (u :: t :: c :: rest)
  | _ => signed cs
where
  signed (cs : List Char) : Except TimeError (Int × List Char) := do
    let (sign, rest) ← match cs with
      | '+' :: rest => pure ((1 : Int), rest)
      | '-' :: rest => pure (-1, rest)
      | '−' :: rest => pure (-1, rest)
      | [] => .error .tooShort
      | _ => .error .invalid
    let (hours, rest) ← twoDigits 99 rest
    let rest := rest.dropWhile fun c ↦ c = ':' || isWhite c
    let (minutes, rest) ← twoDigits 59 rest
    .ok (sign * (hours * 3600 + minutes * 60 : Nat), rest)

/-- The sign between date and time of day. -/
def divider : List Char → Except TimeError (List Char)
  | [] => .error .tooShort
  | c :: rest => if c = 't' ∨ c = 'T' ∨ c = ' ' then .ok rest else .error .invalid

/-- The instant of a local date, time of day and offset. -/
def assemble (date : Date) (hour minute second nanos : Nat) (offset : Int) :
    Except TimeError Instant :=
  if ¬(-262143 ≤ date.year ∧ date.year ≤ 262142 ∧ date.Valid) then .error .outOfRange
  else if ¬(-86400 < offset ∧ offset < 86400) then .error .outOfRange
  else
    let (second, nanos) := if second = 60 then (59, nanos + 1000000000) else (second, nanos)
    let seconds : Int := date.dayNumber * 86400 + (hour * 3600 + minute * 60 + second : Nat)
    match ofUnix? (seconds - offset) nanos with
    | some t => .ok t
    | none => .error .impossible

end Instant.Parser

open Instant.Parser Text in
/-- The instant that a text denotes. -/
def Instant.parse (text : String) : Except TimeError Instant := do
  let (year, cs) ← year text.toList
  let cs ← separator '-' cs
  let (month, cs) ← bounded 1 12 cs
  let cs ← separator '-' cs
  let (day, cs) ← bounded 1 31 cs
  let cs ← divider cs
  let (hour, cs) ← bounded 0 23 cs
  let cs ← separator ':' cs
  let (minute, cs) ← bounded 0 59 cs
  let cs ← separator ':' cs
  let (second, cs) ← bounded 0 60 cs
  let (nanos, cs) ← fraction cs
  let (offset, cs) ← offset (trimStart cs)
  if ¬(trimStart cs).isEmpty then .error .tooLong
  assemble ⟨year, month, day⟩ hour minute second nanos offset

end EtcdBackup
