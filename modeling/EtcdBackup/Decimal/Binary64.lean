/-!
# Double precision numbers as exact fractions

A finite positive double is `mantissa · 2 ^ exponent`. `Binary64.nearest` rounds a positive
decimal to the nearest double, a tie going to the even mantissa, and `Binary64.shortest` finds
the decimal with the fewest digits that rounds back to a given double, the nearest of those if
there are several. Both use exact integer arithmetic only.
-/

set_option autoImplicit false
set_option relaxedAutoImplicit false

namespace EtcdBackup

/-- A non-negative decimal `digits · 10 ^ exponent`. -/
structure Decimal where
  digits : Nat
  exponent : Int
  deriving DecidableEq, Repr

/-- A non-negative double `mantissa · 2 ^ exponent`, the mantissa below `2 ^ 53` and the exponent
at least `-1074`. -/
structure Binary64 where
  mantissa : Nat
  exponent : Int
  deriving DecidableEq, Repr

/-- A positive fraction, used while rounding. -/
structure Fraction where
  num : Nat
  den : Nat

namespace Fraction

/-- `base ^ exponent` times a whole number. -/
def scaled (value base : Nat) (exponent : Int) : Fraction :=
  match exponent with
  | .ofNat e => ⟨value * base.pow e, 1⟩
  | .negSucc e => ⟨value, base.pow (e + 1)⟩

/-- Rounds to a whole number, a half to the even neighbour. -/
def roundHalfEven (f : Fraction) : Nat :=
  let floor := f.num / f.den
  let rest := 2 * (f.num % f.den)
  if rest < f.den then floor
  else if rest = f.den then floor + floor % 2
  else floor + 1

/-- Division by `2 ^ exponent`. -/
def shift (f : Fraction) (exponent : Int) : Fraction :=
  match exponent with
  | .ofNat e => ⟨f.num, f.den <<< e⟩
  | .negSucc e => ⟨f.num <<< (e + 1), f.den⟩

def le (a b : Fraction) : Bool := a.num * b.den ≤ b.num * a.den

def lt (a b : Fraction) : Bool := a.num * b.den < b.num * a.den

end Fraction

namespace Decimal

/-- The count of decimal digits of a number, at least one. -/
def width (n : Nat) : Nat := (Nat.toDigits 10 n).length

/-- The same number without trailing zeros in its digits. -/
def normalize (d : Decimal) : Decimal := go d.digits d (width d.digits)
where
  go (digits : Nat) (d : Decimal) : Nat → Decimal
    | 0 => d
    | fuel + 1 =>
      if digits ≠ 0 ∧ digits % 10 = 0 then
        go (digits / 10) ⟨digits / 10, d.exponent + 1⟩ fuel
      else d

end Decimal

namespace Binary64

/-- The nearest double, `none` beyond the largest. -/
def nearest (d : Decimal) : Option Binary64 :=
  let magnitude : Int := Decimal.width d.digits + d.exponent
  if d.digits = 0 ∨ magnitude < -400 then some ⟨0, 0⟩
  else if magnitude > 400 then none
  else
    let f := Fraction.scaled d.digits 10 d.exponent
    let guess : Int := (Nat.log2 f.num : Int) - Nat.log2 f.den - 53
    let q := if (f.shift guess).num / (f.shift guess).den < 1 <<< 53 then guess else guess + 1
    let q := max q (-1074)
    let m := (f.shift q).roundHalfEven
    let (m, q) := if m = 1 <<< 53 then (1 <<< 52, q + 1) else (m, q)
    if q > 971 then none else some ⟨m, q⟩

/-- The decimals with a last digit of weight `10 ^ exponent` next to a fraction. -/
def neighbours (f : Fraction) (exponent : Int) : List Nat :=
  let scaled := match exponent with
    | .ofNat e => f.num / (f.den * Nat.pow 10 e)
    | .negSucc e => f.num * Nat.pow 10 (e + 1) / f.den
  [scaled, scaled + 1]

/-- The distance of two fractions over a common denominator. -/
def distance (a b : Fraction) : Fraction :=
  let x := a.num * b.den
  let y := b.num * a.den
  ⟨if x ≤ y then y - x else x - y, a.den * b.den⟩

/-- The decimal with the fewest digits that rounds to `x`; of several the nearest, of two equally
near ones that with the even last digit. -/
def shortest (x : Binary64) : Decimal :=
  if x.mantissa = 0 then ⟨0, 0⟩
  else
    let value := Fraction.scaled x.mantissa 2 x.exponent
    let upper := Fraction.scaled (2 * x.mantissa + 1) 2 (x.exponent - 1)
    let lower :=
      if x.mantissa = 1 <<< 52 ∧ x.exponent > -1074 then
        Fraction.scaled (4 * x.mantissa - 1) 2 (x.exponent - 2)
      else Fraction.scaled (2 * x.mantissa - 1) 2 (x.exponent - 1)
    let inside (f : Fraction) : Bool :=
      if x.mantissa % 2 = 0 then lower.le f && f.le upper else lower.lt f && f.lt upper
    let top : Int := (Decimal.width value.num : Int) - Decimal.width value.den + 1
    go value inside top 20
where
  go (value : Fraction) (inside : Fraction → Bool) (exponent : Int) : Nat → Decimal
    | 0 => ⟨value.num, 0⟩
    | fuel + 1 =>
      let found := (neighbours value exponent).filter fun n ↦
        n ≠ 0 && inside (Fraction.scaled n 10 exponent)
      match found with
      | [] => go value inside (exponent - 1) fuel
      | [n] => Decimal.normalize ⟨n, exponent⟩
      | a :: b :: _ =>
        let da := distance value (Fraction.scaled a 10 exponent)
        let db := distance value (Fraction.scaled b 10 exponent)
        let pick := if da.lt db then a else if db.lt da then b else if a % 2 = 0 then a else b
        Decimal.normalize ⟨pick, exponent⟩

end Binary64

end EtcdBackup
