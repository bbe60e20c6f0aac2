import Mooring.Double.Basic

set_option autoImplicit false

/-!
# The fewest decimal digits that read back

A finite double is the nearest double to every number of an interval around it. `shortest` gives
the decimal with the fewest digits inside that interval, of two such the nearer one. Only the two
neighbours of the double on each decimal grid have to be looked at: if a point of a grid lies in
the interval, so does one of the two neighbours.
-/

namespace Mooring

/-- The number `digits · 10 ^ exponent`. -/
structure Decimal where
  digits : Nat
  exponent : Int
  deriving DecidableEq, Repr

namespace Decimal

/-- The decimal digits of a number, most significant first. -/
def digitChars (n : Nat) : List Char :=
  Nat.toDigits 10 n

/-- The power of ten of the leading digit. -/
def leadingExponent (d : Decimal) : Int :=
  d.exponent + (digitChars d.digits).length - 1

/-- The decimal with the trailing zeros of its digits moved into the exponent, `fuel` of them at
most. -/
def stripZeros : Nat → Decimal → Decimal
  | 0, d => d
  | fuel + 1, d =>
    if d.digits ≠ 0 ∧ d.digits % 10 = 0 then stripZeros fuel ⟨d.digits / 10, d.exponent + 1⟩ else d

end Decimal

namespace Double

/-- Positive numbers as quotients, to compare without rounding: `lower` and `upper` bound the
numbers that round to `centre`, all three over one denominator. -/
structure RoundingInterval where
  lower : Nat
  centre : Nat
  upper : Nat
  den : Nat
  closed : Bool

/-- The numbers that round to a positive finite double. The gap below is half as wide when the
double is the least of its power of two; the ends belong to the interval when the mantissa is
even. -/
def roundingInterval (d : Double) : RoundingInterval :=
  let m := d.mantissa
  let below := if d.fraction ≠ 0 ∨ d.exponentField ≤ 1 then 2 else 1
  let e := d.exponent - 2
  let up := if 0 ≤ e then Nat.pow 2 e.toNat else 1
  let den := if 0 ≤ e then 1 else Nat.pow 2 (-e).toNat
  ⟨(4 * m - below) * up, 4 * m * up, (4 * m + 2) * up, den, m % 2 == 0⟩

namespace RoundingInterval

/-- Whether the interval holds `n · 10 ^ e`. -/
def holds (i : RoundingInterval) (n : Nat) (e : Int) : Bool :=
  let x := if 0 ≤ e then n * Nat.pow 10 e.toNat * i.den else n * i.den
  let unit := if 0 ≤ e then 1 else Nat.pow 10 (-e).toNat
  if i.closed then decide (i.lower * unit ≤ x ∧ x ≤ i.upper * unit)
  else decide (i.lower * unit < x ∧ x < i.upper * unit)

/-- The centre divided by `10 ^ e`, as numerator and denominator. -/
def centreOver (i : RoundingInterval) (e : Int) : Nat × Nat :=
  if 0 ≤ e then (i.centre, i.den * Nat.pow 10 e.toNat)
  else (i.centre * Nat.pow 10 (-e).toNat, i.den)

/-- The point of the grid of multiples of `10 ^ e` in the interval that is nearest to the centre;
a tie goes to the even multiple. -/
def nearestOn? (i : RoundingInterval) (e : Int) : Option Nat :=
  let (num, den) := i.centreOver e
  let down := num / den
  let near := divNearest num den
  let far := if near = down then down + 1 else down
  if i.holds near e then some near else if i.holds far e then some far else none

/-- The power of ten of the leading digit of the centre, found from an estimate at most two too
small. -/
def leadingExponent (i : RoundingInterval) : Int :=
  let estimate : Int := ((i.centre.log2 : Int) - i.den.log2 - 1) * 30103 / 100000 - 1
  let reaches (e : Int) : Bool :=
    let (num, den) := i.centreOver e
    decide (den ≤ num)
  if reaches (estimate + 2) then estimate + 2
  else if reaches (estimate + 1) then estimate + 1
  else estimate

/-- The first of the grids with `digits`, `digits + 1`, … digits that has a point in the interval,
trying `fuel` of them. -/
def firstOn (i : RoundingInterval) (leading : Int) : Nat → Nat → Decimal
  | 0, digits =>
    let e := leading - digits + 1
    let (num, den) := i.centreOver e
    ⟨divNearest num den, e⟩
  | fuel + 1, digits =>
    let e := leading - digits + 1
    match i.nearestOn? e with
    | some n => ⟨n, e⟩
    | none => firstOn i leading fuel (digits + 1)

end RoundingInterval

/-- The decimal with the fewest digits that reads back as a finite double of any sign; seventeen
digits always suffice. -/
def shortest (d : Double) : Decimal :=
  if d.mantissa = 0 then ⟨0, 0⟩
  else
    let i := d.roundingInterval
    (i.firstOn i.leadingExponent 17 1).stripZeros 17

end Double

end Mooring
