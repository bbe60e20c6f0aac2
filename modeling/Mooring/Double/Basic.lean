set_option autoImplicit false

/-!
# Binary64 numbers

A `Double` is the 64-bit pattern of an IEEE binary64 number, so that equality of doubles is
equality of patterns and is decidable. What a pattern stands for is read off by `sign`, `mantissa`
and `exponent`; every operation that rounds goes through `ofRatio`, which takes the nearest double
to an exact quotient, a tie going to the even pattern.
-/

namespace Mooring

/-- The bit pattern of a binary64 number. -/
structure Double where
  bits : UInt64
  deriving DecidableEq, Repr

namespace Double

/-- Whether the sign bit is set. -/
def isNegative (d : Double) : Bool :=
  d.bits >>> 63 == 1

/-- The eleven exponent bits. -/
def exponentField (d : Double) : Nat :=
  ((d.bits >>> 52) &&& 0x7FF).toNat

/-- The fifty-two fraction bits. -/
def fraction (d : Double) : Nat :=
  (d.bits &&& 0xFFFFFFFFFFFFF).toNat

/-- Neither infinite nor a NaN. -/
def isFinite (d : Double) : Bool :=
  d.exponentField != 0x7FF

/-- A NaN stands for no number. -/
def isNaN (d : Double) : Bool :=
  d.exponentField == 0x7FF && d.fraction != 0

/-- The integer `m` of a finite double `± m · 2 ^ exponent`. -/
def mantissa (d : Double) : Nat :=
  if d.exponentField = 0 then d.fraction else d.fraction + Nat.pow 2 52

/-- The power of two that scales the mantissa of a finite double. -/
def exponent (d : Double) : Int :=
  (max 1 d.exponentField : Nat) - 1075

/-- The pattern with the given sign bit and the 63 bits below it. -/
def ofParts (negative : Bool) (magnitude : Nat) : Double :=
  ⟨UInt64.ofNat (if negative then Nat.pow 2 63 + magnitude else magnitude)⟩

/-- The 63 bits of an infinity. -/
def infinityMagnitude : Nat :=
  0x7FF * Nat.pow 2 52

/-- Infinity of either sign. -/
def infinity (negative : Bool) : Double :=
  ofParts negative infinityMagnitude

/-- The quiet NaN. -/
def nan : Double :=
  ofParts false (infinityMagnitude + Nat.pow 2 51)

/-- Zero of either sign. -/
def zero (negative : Bool) : Double :=
  ofParts negative 0

/-- The quotient `num / den` rounded to the nearest integer, a tie going to the even one. -/
def divNearest (num den : Nat) : Nat :=
  let q := num / den
  let twice := 2 * (num % den)
  if twice > den || (twice == den && q % 2 == 1) then q + 1 else q

/-- The least power of two `k ≥ -1074` for which `num / den < 2 ^ (k + 53)`. -/
def scaleOf (num den : Nat) : Int :=
  let guess : Int := (num.log2 : Int) - den.log2 - 53
  let fits (k : Int) : Bool :=
    if 0 ≤ k + 53 then decide (num < den * Nat.pow 2 (k + 53).toNat)
    else decide (num * Nat.pow 2 (-(k + 53)).toNat < den)
  max (-1074) (if fits guess then guess else guess + 1)

/-- The double nearest to `± num / den`; beyond the largest double, infinity. -/
def ofRatio (negative : Bool) (num den : Nat) : Double :=
  if num = 0 then zero negative
  else
    let k := scaleOf num den
    let q := if 0 ≤ k then divNearest num (den * Nat.pow 2 k.toNat)
      else divNearest (num * Nat.pow 2 (-k).toNat) den
    ofParts negative (min infinityMagnitude ((k + 1074).toNat * Nat.pow 2 52 + q))

/-- The double nearest to `± m · 2 ^ e`. -/
def ofScaled (negative : Bool) (m : Nat) (e : Int) : Double :=
  if 0 ≤ e then ofRatio negative (m * Nat.pow 2 e.toNat) 1
  else ofRatio negative m (Nat.pow 2 (-e).toNat)

/-- The double nearest to an integer. -/
def ofInt (n : Int) : Double :=
  ofRatio (decide (n < 0)) n.natAbs 1

/-- The double nearest to `± digits · 10 ^ e`, where an exponent far outside the range of the
format is settled without forming the power. -/
def ofDecimal (negative : Bool) (digits : Nat) (e : Int) : Double :=
  let top : Int := e + (digits.log2 : Int) / 3 + 1
  if digits = 0 ∨ top < -400 then zero negative
  else if 400 < e + (digits.log2 : Int) / 4 then infinity negative
  else if 0 ≤ e then ofRatio negative (digits * Nat.pow 10 e.toNat) 1
  else ofRatio negative digits (Nat.pow 10 (-e).toNat)

/-- The product of two finite doubles, rounded once. -/
def mul (a b : Double) : Double :=
  ofScaled (a.isNegative != b.isNegative) (a.mantissa * b.mantissa) (a.exponent + b.exponent)

/-- The quotient of two finite doubles, the second not zero, rounded once. -/
def div (a b : Double) : Double :=
  let e := a.exponent - b.exponent
  let negative := a.isNegative != b.isNegative
  if 0 ≤ e then ofRatio negative (a.mantissa * Nat.pow 2 e.toNat) b.mantissa
  else ofRatio negative a.mantissa (b.mantissa * Nat.pow 2 (-e).toNat)

/-- The number as a multiple of `2 ^ (-1074)`; an infinity lies beyond all finite ones and a NaN
has no place. -/
def place? (d : Double) : Option Int :=
  if d.isNaN then none
  else
    let m : Nat :=
      if d.isFinite then d.mantissa * Nat.pow 2 (d.exponent + 1074).toNat else Nat.pow 2 2200
    some (if d.isNegative then -(m : Int) else m)

/-- The numeric order of two doubles; none when either is a NaN. -/
def compare? (a b : Double) : Option Ordering := do
  return compare (← a.place?) (← b.place?)

/-- Numeric equality: both zeros are equal, a NaN equals nothing. -/
def numEq (a b : Double) : Bool :=
  compare? a b == some .eq

/-- The integer a finite double stands for, if it is one. -/
def toInt? (d : Double) : Option Int :=
  if !d.isFinite then none
  else
    let magnitude : Option Nat :=
      if 0 ≤ d.exponent then some (d.mantissa * Nat.pow 2 d.exponent.toNat)
      else
        let unit := Nat.pow 2 (-d.exponent).toNat
        if d.mantissa % unit = 0 then some (d.mantissa / unit) else none
    magnitude.map fun (m : Nat) => if d.isNegative then -(m : Int) else m

/-- The double with the opposite sign. -/
def neg (d : Double) : Double :=
  ⟨d.bits ^^^ 0x8000000000000000⟩

end Double

end Mooring
