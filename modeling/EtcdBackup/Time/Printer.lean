import EtcdBackup.Time.Instant

/-!
# Writing times

`Moment.text` is the form of the wire: date, `T`, time of day, a fraction of three, six or nine
digits where one is needed, and `Z`. `Moment.fileText` is the form inside artifact names, to the
second and with dashes only. Years outside 0 to 9999 carry a sign and at least four digits, and a
leap second is written as one more than the second before it, so as second 60 at the end of a
minute.
-/

set_option autoImplicit false
set_option relaxedAutoImplicit false

namespace EtcdBackup

/-- A number with leading zeros up to a width. -/
def padded (width : Nat) (n : Nat) : String :=
  let digits := toString n
  String.ofList (List.replicate (width - digits.length) '0') ++ digits

/-- The text of a year. -/
def Date.yearText (year : Int) : String :=
  if 0 ≤ year ∧ year ≤ 9999 then padded 4 year.toNat
  else (if year < 0 then "-" else "+") ++ padded 4 year.natAbs

/-- Year, month and day between dashes. -/
def Date.text (d : Date) : String :=
  yearText d.year ++ "-" ++ padded 2 d.month ++ "-" ++ padded 2 d.day

namespace Moment

/-- Hour, minute and second between separators. -/
def clockText (t : Moment) (separator : String) : String :=
  let s := t.secondOfDay
  let leap := if t.isLeap then 1 else 0
  padded 2 (s / 3600) ++ separator ++ padded 2 (s / 60 % 60) ++ separator ++
    padded 2 (s % 60 + leap)

/-- The fraction of a second with as few digits out of 0, 3, 6 and 9 as it needs. -/
def fractionText (t : Moment) : String :=
  let n := t.nanos % 1000000000
  if n = 0 then ""
  else if n % 1000000 = 0 then "." ++ padded 3 (n / 1000000)
  else if n % 1000 = 0 then "." ++ padded 6 (n / 1000)
  else "." ++ padded 9 n

/-- The form of times on the wire. -/
def text (t : Moment) : String :=
  t.date.text ++ "T" ++ t.clockText ":" ++ t.fractionText ++ "Z"

/-- The form of times in artifact names as a template: year, month, day, hour, minute, second. -/
def fileTemplate : String := "%Y-%m-%dT%H-%M-%S"

/-- The form of times in artifact names. -/
def fileText (t : Moment) : String := t.date.text ++ "T" ++ t.clockText "-"

end Moment

end EtcdBackup
