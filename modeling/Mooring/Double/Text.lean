import Mooring.Double.Shortest
import Mooring.Text.Search

set_option autoImplicit false

/-!
# Writing and reading doubles

A double is written with the fewest digits that read back, in one of two forms: `jsonText`, with
an exponent when the leading digit is far from the point, and `plainText`, always positional.
`readText?` reads a number as people write it, rounding correctly; `ofSignificand?` reads one the
way the JSON reader does, with one rounding for the digits and one for the power of ten.
-/

namespace Mooring.Double

/-! ## Writing -/

/-- A count of zeros. -/
def zeros (n : Nat) : List Char :=
  List.replicate n '0'

/-- A decimal in positional notation, without a point when it is an integer. -/
def positional (d : Decimal) : List Char :=
  let ds := Decimal.digitChars d.digits
  if 0 ≤ d.exponent then ds ++ zeros d.exponent.toNat
  else
    let places := (-d.exponent).toNat
    if places < ds.length then
      ds.take (ds.length - places) ++ '.' :: ds.drop (ds.length - places)
    else ['0', '.'] ++ zeros (places - ds.length) ++ ds

/-- A decimal as one digit, the others after a point, and an exponent; `plus` is the sign of an
exponent that is not negative. -/
def scientific (plus : List Char) (d : Decimal) : List Char :=
  let ds := Decimal.digitChars d.digits
  let e := d.leadingExponent
  let mantissa := ds.take 1 ++ (if ds.length ≤ 1 then [] else '.' :: ds.drop 1)
  mantissa ++ 'e' :: (if e < 0 then ['-'] else plus) ++ Decimal.digitChars e.natAbs

/-- A decimal in positional notation, with a point even when it is an integer. -/
def pointed (d : Decimal) : List Char :=
  let p := positional d
  if p.contains '.' then p else p ++ ['.', '0']

/-- The text of a finite double in JSON: an exponent when the leading digit stands more than five
places behind the point or more than fifteen before it, and otherwise always a point. -/
def jsonText (d : Double) : String :=
  let s := d.shortest
  let e := s.leadingExponent
  let body :=
    if s.digits ≠ 0 ∧ (e < -5 ∨ 16 ≤ e) then scientific ['+'] s else pointed s
  String.ofList (if d.isNegative then '-' :: body else body)

/-- The text of a double without exponent, an integer without a point. -/
def plainText (d : Double) : String :=
  if d.isNaN then "NaN"
  else
    let body := if d.isFinite then positional d.shortest else "inf".toList
    String.ofList (if d.isNegative then '-' :: body else body)

/-- The text of a double in messages: an exponent from four places behind the point and from
sixteen before it, and otherwise always a point. -/
def messageText (d : Double) : String :=
  if d.isNaN then "NaN"
  else
    let s := d.shortest
    let e := s.leadingExponent
    let body :=
      if !d.isFinite then "inf".toList
      else if s.digits ≠ 0 ∧ (e < -4 ∨ 16 ≤ e) then scientific [] s
      else pointed s
    String.ofList (if d.isNegative then '-' :: body else body)

/-! ## Reading -/

/-- The value of a decimal digit. -/
def digitValue (c : Char) : Nat :=
  c.toNat - '0'.toNat

/-- The number a list of decimal digits writes. -/
def ofDigits (ds : List Char) : Nat :=
  ds.foldl (fun n c => n * 10 + digitValue c) 0

/-- A number split at its point and exponent mark: the digits before and after the point and the
exponent. -/
structure Written where
  whole : List Char
  part : List Char
  exponent : Int

/-- An exponent: an optional sign and digits, to the end of the text. -/
def readExponent? (cs : List Char) : Option Int :=
  let (negative, ds) := match cs with
    | '-' :: r => (true, r)
    | '+' :: r => (false, r)
    | r => (false, r)
  if ds.isEmpty || !ds.all Char.isDigit then none
  else some (if negative then -(ofDigits ds : Int) else ofDigits ds)

/-- Digits with an optional point and exponent; one digit at least stands beside the point. -/
def Written.ofText? (cs : List Char) : Option Written :=
  let whole := cs.takeWhile Char.isDigit
  let rest := cs.dropWhile Char.isDigit
  let (part, rest) := match rest with
    | '.' :: r => (r.takeWhile Char.isDigit, r.dropWhile Char.isDigit)
    | r => ([], r)
  if whole.isEmpty && part.isEmpty then none
  else match rest with
    | [] => some ⟨whole, part, 0⟩
    | c :: r => if c = 'e' ∨ c = 'E' then (readExponent? r).map (⟨whole, part, ·⟩) else none

/-- The double nearest to a number as people write it: an optional sign, then digits with an
optional point and exponent, or a name of infinity or of the NaN in any case. -/
def readText? (cs : List Char) : Option Double :=
  let (negative, body) := match cs with
    | '-' :: r => (true, r)
    | '+' :: r => (false, r)
    | r => (false, r)
  let name := String.ofList (body.map Text.lowerAscii)
  if name = "inf" ∨ name = "infinity" then some (infinity negative)
  else if name = "nan" then some (if negative then nan.neg else nan)
  else (Written.ofText? body).map fun w =>
    ofDecimal negative (ofDigits (w.whole ++ w.part)) (w.exponent - w.part.length)

/-- The double a string writes. -/
def read? (s : String) : Option Double :=
  readText? s.toList

/-! ## Reading in two roundings -/

/-- The power of ten `10 ^ n` as a double. -/
def powerOfTen (n : Nat) : Double :=
  ofDecimal false 1 n

/-- A double divided by `10 ^ 308` until at most 308 places remain, then by the rest, each division
rounded; `steps` bounds the divisions. -/
def scaleDown : Nat → Double → Nat → Double
  | 0, d, _ => d
  | steps + 1, d, places =>
    if places ≤ 308 then d.div (powerOfTen places)
    else if d.mantissa = 0 then d
    else scaleDown steps (d.div (powerOfTen 308)) (places - 308)

/-- The double `± significand · 10 ^ e`, the significand rounded first and the product or quotient
once more; none when it lies beyond the largest double. -/
def ofSignificand? (negative : Bool) (significand : Nat) (e : Int) : Option Double :=
  let f := ofInt significand
  let scaled : Option Double :=
    if e < 0 then some (scaleDown 8 f (-e).toNat)
    else if e ≤ 308 then
      let d := f.mul (powerOfTen e.toNat)
      if d.isFinite then some d else none
    else if significand = 0 then some f
    else none
  scaled.map fun d => if negative then d.neg else d

end Mooring.Double
