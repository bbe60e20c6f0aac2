import Mooring.Path.Basic
import Mooring.Json.Writer
import Mooring.Text.Blank
import Mooring.Text.Search

set_option autoImplicit false

/-!
# Comparing values in filters

Values compare loosely: a string and a number by the number the string writes, a string and a
truth value by its name in any case, two numbers by size. Anything else is equal only as a value
of its own kind, and only numbers and strings have an order.
-/

namespace Mooring.Path

/-- The double a string writes, blanks around it allowed. -/
def numberOf? (s : String) : Option Double :=
  Double.readText? (Text.trim s.toList)

/-- Loose equality. -/
def looseEq : Json → Json → Bool
  | .num x, .num y => x.toDouble.numEq y.toDouble
  | .str s, .num n | .num n, .str s =>
    match numberOf? s with
    | some d => d.numEq n.toDouble
    | none => false
  | .str s, .bool b | .bool b, .str s => Text.eqIgnoringAsciiCase s (if b then "true" else "false")
  | a, b => a.alike b

/-- The order of code points. -/
def compareText : List Char → List Char → Ordering
  | [], [] => .eq
  | [], _ :: _ => .lt
  | _ :: _, [] => .gt
  | a :: as, b :: bs => if a = b then compareText as bs else if a < b then .lt else .gt

/-- The order of two values, if they have one. -/
def order? : Json → Json → Option Ordering
  | .num x, .num y => Double.compare? x.toDouble y.toDouble
  | .str x, .str y => some (compareText x.toList y.toList)
  | .str s, .num n => do Double.compare? (← numberOf? s) n.toDouble
  | .num n, .str s => do Double.compare? n.toDouble (← numberOf? s)
  | _, _ => none

/-- Whether a value, or one of the values of a list, is among the items of a list; a value that is
no list holds only what equals it. -/
def isAmong : Json → Json → Bool
  | .arr values, .arr options => values.any fun v => options.any (looseEq v)
  | v, .arr options => options.any (looseEq v)
  | v, other => looseEq v other

/-- The text a regular expression is tried on, for a value that has one. -/
def matchText? : Json → Option String
  | .str s => some s
  | .num n => some n.text
  | .bool b => some (if b then "true" else "false")
  | _ => none

/-- Whether the comparison holds between two values; matching needs a regular expression and holds
between no values. -/
def Comparison.holds (op : Comparison) (a b : Json) : Bool :=
  match op with
  | eq => looseEq a b
  | ne => !looseEq a b
  | isIn => isAmong a b
  | notIn => !isAmong a b
  | lt => order? a b == some .lt
  | le => order? a b == some .lt || order? a b == some .eq
  | gt => order? a b == some .gt
  | ge => order? a b == some .gt || order? a b == some .eq
  | like => false

end Mooring.Path
