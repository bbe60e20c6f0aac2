import Mooring.Double.Basic
import Mooring.OrderedMap

set_option autoImplicit false

/-!
# JSON values

A number is an integer or a finite double, and the two are told apart: `1` and `1.0` are different
numbers of equal size. An object is the list of its members in written order. `Json.alike` is
equality of values, for which the order of members does not matter; equality of `Json` itself
also compares that order and is decidable.
-/

namespace Mooring

/-- A JSON number: an integer, or a double when the text has a point, an exponent or too many
digits. -/
inductive JsonNumber where
  | int (n : Int)
  | double (d : Double)
  deriving DecidableEq, Repr

namespace JsonNumber

/-- The number as a double, rounded if need be. -/
def toDouble : JsonNumber → Double
  | int n => Double.ofInt n
  | double d => d

/-- Equality of two numbers of the same kind; an integer never equals a double. -/
def alike : JsonNumber → JsonNumber → Bool
  | int a, int b => a == b
  | double a, double b => a.numEq b
  | _, _ => false

end JsonNumber

/-- A JSON document. -/
inductive Json where
  | null
  | bool (b : Bool)
  | num (n : JsonNumber)
  | str (s : String)
  | arr (items : List Json)
  | obj (members : List (String × Json))
  deriving Repr, Inhabited

namespace Json

/-! ## Decidable equality -/

mutual

/-- Equality of documents, member order included, is decidable. -/
def decEqValue : (a b : Json) → Decidable (a = b)
  | .null, b => by cases b <;> first | exact isTrue rfl | exact isFalse nofun
  | .bool x, .bool y => decidable_of_iff (x = y) (by simp)
  | .num x, .num y => decidable_of_iff (x = y) (by simp)
  | .str x, .str y => decidable_of_iff (x = y) (by simp)
  | .arr xs, .arr ys =>
    match decEqItems xs ys with
    | isTrue h => isTrue (by rw [h])
    | isFalse h => isFalse (by simpa using h)
  | .obj xs, .obj ys =>
    match decEqMembers xs ys with
    | isTrue h => isTrue (by rw [h])
    | isFalse h => isFalse (by simpa using h)
  | .bool _, .null | .bool _, .num _ | .bool _, .str _ | .bool _, .arr _ | .bool _, .obj _
  | .num _, .null | .num _, .bool _ | .num _, .str _ | .num _, .arr _ | .num _, .obj _
  | .str _, .null | .str _, .bool _ | .str _, .num _ | .str _, .arr _ | .str _, .obj _
  | .arr _, .null | .arr _, .bool _ | .arr _, .num _ | .arr _, .str _ | .arr _, .obj _
  | .obj _, .null | .obj _, .bool _ | .obj _, .num _ | .obj _, .str _ | .obj _, .arr _ =>
    isFalse nofun
termination_by structural a => a

/-- Equality of lists of documents is decidable. -/
def decEqItems : (xs ys : List Json) → Decidable (xs = ys)
  | [], [] => isTrue rfl
  | [], _ :: _ => isFalse nofun
  | _ :: _, [] => isFalse nofun
  | x :: xs, y :: ys =>
    match decEqValue x y, decEqItems xs ys with
    | isTrue h, isTrue t => isTrue (by rw [h, t])
    | isFalse h, _ => isFalse (by simp [h])
    | _, isFalse t => isFalse (by simp [t])
termination_by structural xs => xs

/-- Equality of members is decidable. -/
def decEqMember : (x y : String × Json) → Decidable (x = y)
  | (k, v), (l, w) =>
    match decEq k l, decEqValue v w with
    | isTrue h, isTrue t => isTrue (by rw [h, t])
    | isFalse h, _ => isFalse (by simp [h])
    | _, isFalse t => isFalse (by simp [t])
termination_by structural x => x

/-- Equality of lists of members is decidable. -/
def decEqMembers : (xs ys : List (String × Json)) → Decidable (xs = ys)
  | [], [] => isTrue rfl
  | [], _ :: _ => isFalse nofun
  | _ :: _, [] => isFalse nofun
  | x :: xs, y :: ys =>
    match decEqMember x y, decEqMembers xs ys with
    | isTrue h, isTrue t => isTrue (by rw [h, t])
    | isFalse h, _ => isFalse (by simp [h])
    | _, isFalse t => isFalse (by simp [t])
termination_by structural xs => xs

end

instance : DecidableEq Json := decEqValue

/-! ## Equality of values -/

mutual

/-- Two documents are the same value: members may stand in another order. -/
def alike : Json → Json → Bool
  | .null, .null => true
  | .bool a, .bool b => a == b
  | .num a, .num b => a.alike b
  | .str a, .str b => a == b
  | .arr xs, .arr ys => alikeItems xs ys
  | .obj xs, .obj ys => xs.length == ys.length && alikeMembers xs ys
  | _, _ => false
termination_by structural a => a

/-- Two lists hold the same values in the same order. -/
def alikeItems : List Json → List Json → Bool
  | [], [] => true
  | x :: xs, y :: ys => alike x y && alikeItems xs ys
  | _, _ => false
termination_by structural xs => xs

/-- The other object has this member, with the same value. -/
def alikeMember : String × Json → List (String × Json) → Bool
  | (k, v), ys =>
    match ys.lookup k with
    | some w => alike v w
    | none => false
termination_by structural x => x

/-- The other object has all of these members, with the same values. -/
def alikeMembers : List (String × Json) → List (String × Json) → Bool
  | [], _ => true
  | m :: rest, ys => alikeMember m ys && alikeMembers rest ys
termination_by structural xs => xs

end

/-! ## Members and conversions -/

/-- The member of an object with the given name. -/
def member? (name : String) : Json → Option Json
  | .obj members => members.lookup name
  | _ => none

/-- The text of a string. -/
def asString? : Json → Option String
  | .str s => some s
  | _ => none

/-- A number that is an integer of the signed 64-bit range. -/
def asInt64? : Json → Option Int
  | .num (.int n) => if -Int.pow 2 63 ≤ n ∧ n < Int.pow 2 63 then some n else none
  | _ => none

/-- A number that is an integer of the unsigned 64-bit range. -/
def asNat64? : Json → Option Nat
  | .num (.int n) => if 0 ≤ n ∧ n < Int.pow 2 64 then some n.toNat else none
  | _ => none

mutual

/-- The document in which every object has distinct names. -/
def normal : Json → Json
  | .arr items => .arr (normalItems items)
  | .obj members => .obj (distinctPairs (normalMembers members))
  | v => v
termination_by structural v => v

/-- The items with distinct names in every object. -/
def normalItems : List Json → List Json
  | [] => []
  | x :: xs => normal x :: normalItems xs
termination_by structural xs => xs

/-- The member with distinct names in every object of its value. -/
def normalMember : String × Json → String × Json
  | (k, v) => (k, normal v)
termination_by structural m => m

/-- The members with distinct names in every object of their values. -/
def normalMembers : List (String × Json) → List (String × Json)
  | [] => []
  | m :: ms => normalMember m :: normalMembers ms
termination_by structural ms => ms

end

end Json

end Mooring
