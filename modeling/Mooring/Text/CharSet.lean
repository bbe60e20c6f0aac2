set_option autoImplicit false

/-!
# Sets of characters

A `CharSet` is a list of ranges of code points. `normal` puts the ranges in order and apart from
each other; union, intersection and complement work on such lists. Sets of a standard are written
as tables: hexadecimal ranges separated by blanks, `a-b/2` for every second code point from `a`
to `b`.
-/

namespace Mooring.Text

/-- Ranges of code points, both ends included. -/
structure CharSet where
  ranges : List (Nat × Nat)
  deriving DecidableEq, Repr

namespace CharSet

/-- The largest code point. -/
def top : Nat := 0x10FFFF

/-- Whether a code point lies in one of the ranges. -/
def holds (s : CharSet) (n : Nat) : Bool :=
  s.ranges.any fun r => r.1 ≤ n && n ≤ r.2

/-- Whether a character lies in one of the ranges. -/
def contains (s : CharSet) (c : Char) : Bool :=
  s.holds c.toNat

/-- No characters. -/
def empty : CharSet := ⟨[]⟩

/-- All characters. -/
def full : CharSet := ⟨[(0, top)]⟩

/-- The characters from `a` to `b`. -/
def range (a b : Nat) : CharSet := ⟨[(a, b)]⟩

/-- One character. -/
def single (c : Char) : CharSet := range c.toNat c.toNat

/-- Whether a range starts no later than another. -/
def startsBefore (r q : Nat × Nat) : Bool :=
  r.1 ≤ q.1

/-- Ranges, ordered by their start, joined from the left while they touch. -/
def sweep : Nat × Nat → List (Nat × Nat) → List (Nat × Nat)
  | r, [] => [r]
  | r, q :: rest =>
    if q.1 ≤ r.2 + 1 then sweep (r.1, max r.2 q.2) rest else r :: sweep q rest

/-- The same set with its ranges in order and apart. -/
def normal (s : CharSet) : CharSet :=
  match (s.ranges.filter fun r => r.1 ≤ r.2).mergeSort startsBefore with
  | [] => empty
  | r :: rest => ⟨sweep r rest⟩

/-- The characters of either set. -/
def union (s t : CharSet) : CharSet :=
  normal ⟨s.ranges ++ t.ranges⟩

/-- The gaps from `start` on between ordered ranges. -/
def gaps : Nat → List (Nat × Nat) → List (Nat × Nat)
  | start, [] => if start ≤ top then [(start, top)] else []
  | start, r :: rest =>
    if start < r.1 then (start, r.1 - 1) :: gaps (r.2 + 1) rest else gaps (r.2 + 1) rest

/-- The characters outside the set. -/
def complement (s : CharSet) : CharSet :=
  ⟨gaps 0 s.normal.ranges⟩

/-- The characters of both sets. -/
def inter (s t : CharSet) : CharSet :=
  (union s.complement t.complement).complement

/-- The characters of the first set outside the second. -/
def diff (s t : CharSet) : CharSet :=
  inter s t.complement

/-- The characters of exactly one of the sets. -/
def symmDiff (s t : CharSet) : CharSet :=
  union (diff s t) (diff t s)

/-! ## Tables -/

/-- A range of a table with the distance between its members. -/
structure Entry where
  first : Nat
  last : Nat
  stride : Nat

/-- The number written by hexadecimal digits. -/
def hexNumber (cs : List Char) : Nat :=
  cs.foldl (fun n c =>
    n * 16 + (if c.isDigit then c.toNat - '0'.toNat else c.toNat - 'A'.toNat + 10)) 0

/-- One entry of a table. -/
def Entry.ofText (cs : List Char) : Entry :=
  let digits := cs.takeWhile (fun c => c != '-')
  match cs.dropWhile (fun c => c != '-') with
  | [] => ⟨hexNumber digits, hexNumber digits, 1⟩
  | _ :: rest =>
    let last := rest.takeWhile (fun c => c != '/')
    ⟨hexNumber digits, hexNumber last, if last.length = rest.length then 1 else 2⟩

/-- The pieces of a table between blanks. -/
def pieces : List Char → List Char → List (List Char)
  | word, [] => if word.isEmpty then [] else [word.reverse]
  | word, c :: cs =>
    if c = ' ' ∨ c = '\n' then (if word.isEmpty then pieces [] cs else word.reverse :: pieces [] cs)
    else pieces (c :: word) cs

/-- The entries of a table. -/
def entries (table : String) : List Entry :=
  (pieces [] table.toList).map Entry.ofText

/-- The ranges an entry stands for. -/
def Entry.ranges (e : Entry) : List (Nat × Nat) :=
  if e.stride = 1 then [(e.first, e.last)]
  else (List.range ((e.last - e.first) / e.stride + 1)).map fun i =>
    (e.first + i * e.stride, e.first + i * e.stride)

/-- The set a table writes. -/
def ofTable (table : String) : CharSet :=
  ⟨(entries table).flatMap Entry.ranges⟩

end CharSet

end Mooring.Text
