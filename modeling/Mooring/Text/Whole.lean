import Mooring.Double.Text

set_option autoImplicit false

/-!
# Whole numbers in text

A sign may stand in front of the digits, and the number has to be one of 64 bits.
-/

namespace Mooring.Text

/-- The number of one or more decimal digits. -/
def digitsNumber? (ds : List Char) : Option Nat :=
  if ds ≠ [] ∧ ds.all Char.isDigit then some (Double.ofDigits ds) else none

/-- The number of the unsigned 64-bit range that a text writes, with or without a plus sign. -/
def wholeNumber? (cs : List Char) : Option Nat := do
  let n ← digitsNumber? (if cs.head? = some '+' then cs.tail else cs)
  if n < Nat.pow 2 64 then some n else none

/-- The number of the signed 64-bit range that a text writes, with or without a sign. -/
def signedNumber? (cs : List Char) : Option Int := do
  let (negative, digits) := match cs with
    | '-' :: rest => (true, rest)
    | '+' :: rest => (false, rest)
    | rest => (false, rest)
  let n : Int ← digitsNumber? digits
  let n := if negative then -n else n
  if -Int.pow 2 63 ≤ n ∧ n < Int.pow 2 63 then some n else none

end Mooring.Text
