import Mooring.Text.Category
import Mooring.Text.Property

set_option autoImplicit false

/-!
# Letters, numerals and case folding

The character classes that lexers ask for, built from the tables, and simple case folding. ASCII
characters are settled without a table.
-/

namespace Mooring.Text

/-- The characters of any of the categories. -/
def ofCategories (cs : List Category) : CharSet :=
  ⟨cs.flatMap fun c => c.set.ranges⟩

/-- Characters with the property `Alphabetic`. -/
def alphabetic : CharSet :=
  CharSet.ofTable (Property.table "Alphabetic")

/-- Characters of the number categories. -/
def numeric : CharSet :=
  ofCategories [.decimalNumber, .letterNumber, .otherNumber]

/-- Characters that extend the grapheme before them. -/
def graphemeExtend : CharSet :=
  CharSet.ofTable (Property.table "Grapheme_Extend")

/-- Letters of any category. -/
def letters : CharSet :=
  ofCategories [.uppercaseLetter, .lowercaseLetter, .titlecaseLetter, .modifierLetter, .otherLetter]

/-- Marks of any category. -/
def marks : CharSet :=
  ofCategories [.nonspacingMark, .spacingMark, .enclosingMark]

/-- Characters that a reader cannot see or that no one has assigned: controls, formats, private
and unassigned characters, and separators other than the space. -/
def unprintable : CharSet :=
  let assigned := ofCategories (Category.all.filter fun c => c != .control && c != .format &&
    c != .surrogate && c != .privateUse && c != .spaceSeparator && c != .lineSeparator &&
    c != .paragraphSeparator)
  (assigned.union (CharSet.single ' ')).complement

/-- Whether a character is alphabetic. -/
def isAlphabetic (c : Char) : Bool :=
  if c.toNat < 128 then c.isAlpha else alphabetic.contains c

/-- Whether a character is alphabetic or a numeral. -/
def isAlphanumeric (c : Char) : Bool :=
  if c.toNat < 128 then c.isAlphanum else alphabetic.contains c || numeric.contains c

/-! ## Case folding -/

/-- The folding shifts with their characters as sets. -/
def foldSets : List (Int × CharSet) :=
  Property.foldShifts.map fun s => (s.1, CharSet.ofTable s.2)

/-- The code point a code point folds to: itself, unless some shift moves it. -/
def foldPoint (n : Nat) : Nat :=
  match foldSets.find? fun s => s.2.holds n with
  | some (shift, _) => ((n : Int) + shift).toNat
  | none => n

/-- Simple case folding of a character. -/
def foldChar (c : Char) : Char :=
  if c.toNat < 128 then (if c.isUpper then Char.ofNat (c.toNat + 32) else c)
  else Char.ofNat (foldPoint c.toNat)

/-- Equality of texts up to simple case folding. -/
def eqFolding (a b : List Char) : Bool :=
  a.map foldChar == b.map foldChar

/-- The range moved by a shift. -/
def shiftRange (shift : Int) (r : Nat × Nat) : Nat × Nat :=
  (((r.1 : Int) + shift).toNat, ((r.2 : Int) + shift).toNat)

/-- The set with every character that folds to the same character as one of its members. -/
def foldClosure (s : CharSet) : CharSet :=
  let folded := foldSets.flatMap fun (shift, from') =>
    (from'.inter s).ranges.map (shiftRange shift)
  let withFolded := s.union ⟨folded⟩
  let unfolded := foldSets.flatMap fun (shift, from') =>
    ((CharSet.normal ⟨from'.ranges.map (shiftRange shift)⟩).inter withFolded).ranges.map
      (shiftRange (-shift))
  withFolded.union ⟨unfolded⟩

/-- The set with the other case of its ASCII letters. -/
def foldAsciiClosure (s : CharSet) : CharSet :=
  let upper := s.inter (CharSet.range 0x41 0x5A)
  let lower := s.inter (CharSet.range 0x61 0x7A)
  s.union ⟨upper.ranges.map (shiftRange 32) ++ lower.ranges.map (shiftRange (-32))⟩

end Mooring.Text
