import Mooring.Text.Search
import Mooring.Text.Letters
import Mooring.Text.Script

set_option autoImplicit false

/-!
# Named sets of characters

The sets a pattern can name: words, digits and blanks, the ASCII classes, and Unicode categories,
scripts and properties. Unicode names are compared loosely: case, blanks, hyphens, underscores and
a leading `is` do not count.
-/

namespace Mooring.Pattern

open Mooring.Text

/-- Decimal digits. -/
def digitSet : CharSet :=
  Category.set .decimalNumber

/-- Blanks: the characters that `isBlank` accepts. -/
def blankSet : CharSet :=
  CharSet.ofTable "9-D 20 85 A0 1680 2000-200A 2028 2029 202F 205F 3000"

/-- Word characters: letters, marks, digits, connectors and joiners. -/
def wordSet : CharSet :=
  alphabetic.union
    ⟨marks.ranges ++ digitSet.ranges ++ (Category.set .connectorPunctuation).ranges ++
      [(0x200C, 0x200D)]⟩

/-- Decimal digits of ASCII. -/
def asciiDigitSet : CharSet := CharSet.ofTable "30-39"

/-- Blanks of ASCII. -/
def asciiBlankSet : CharSet := CharSet.ofTable "9-D 20"

/-- Word characters of ASCII. -/
def asciiWordSet : CharSet := CharSet.ofTable "30-39 41-5A 5F 61-7A"

/-- The ASCII classes with a name in brackets. -/
def asciiClasses : List (String × String) :=
  [("alnum", "30-39 41-5A 61-7A"), ("alpha", "41-5A 61-7A"), ("ascii", "0-7F"), ("blank", "9 20"),
   ("cntrl", "0-1F 7F"), ("digit", "30-39"), ("graph", "21-7E"), ("lower", "61-7A"),
   ("print", "20-7E"), ("punct", "21-2F 3A-40 5B-60 7B-7E"), ("space", "9-D 20"),
   ("upper", "41-5A"), ("word", "30-39 41-5A 5F 61-7A"), ("xdigit", "30-39 41-46 61-66")]

/-- An ASCII class by its name. -/
def asciiClass? (name : String) : Option CharSet :=
  (asciiClasses.lookup name).map CharSet.ofTable

/-- A Unicode name in the form in which names are compared. -/
def looseName (s : String) : String :=
  let cs := (s.toList.filter fun c => c != ' ' && c != '-' && c != '_').map lowerAscii
  let cs := cs.filter fun c => c.toNat < 128
  match cs with
  | 'i' :: 's' :: rest => if rest = ['c'] then "isc" else String.ofList rest
  | cs => String.ofList cs

/-- Names of unions of categories. -/
def categoryGroups : List (List String × List Category) :=
  [(["l", "letter"],
    [.uppercaseLetter, .lowercaseLetter, .titlecaseLetter, .modifierLetter, .otherLetter]),
   (["lc", "casedletter"], [.uppercaseLetter, .lowercaseLetter, .titlecaseLetter]),
   (["m", "mark", "combiningmark"], [.nonspacingMark, .spacingMark, .enclosingMark]),
   (["n", "number"], [.decimalNumber, .letterNumber, .otherNumber]),
   (["p", "punctuation", "punct"],
    [.connectorPunctuation, .dashPunctuation, .openPunctuation, .closePunctuation,
      .initialPunctuation, .finalPunctuation, .otherPunctuation]),
   (["s", "symbol"], [.mathSymbol, .currencySymbol, .modifierSymbol, .otherSymbol]),
   (["z", "separator"], [.spaceSeparator, .lineSeparator, .paragraphSeparator]),
   (["cntrl"], [.control]),
   (["digit"], [.decimalNumber])]

/-- The characters no category is assigned to. -/
def unassigned : CharSet :=
  (ofCategories Category.all).complement

/-- A set named as a category, in loose form. -/
def category? (name : String) : Option CharSet :=
  if name = "any" then some CharSet.full
  else if name = "assigned" then some unassigned.complement
  else if name = "ascii" then some (CharSet.range 0 127)
  else if name = "cn" ∨ name = "unassigned" then some unassigned
  else if name = "c" ∨ name = "other" then
    some (unassigned.union (ofCategories [.control, .format, .privateUse]))
  else
    match categoryGroups.find? fun g => g.1.contains name with
    | some g => some (ofCategories g.2)
    | none =>
      (Category.all.find? fun c => looseName c.names.1 == name || looseName c.names.2 == name).map
        Category.set

/-- A set named as a script, in loose form. -/
def script? (name : String) : Option CharSet :=
  (Script.tables.find? fun t => t.1.any fun n => looseName n == name).map
    fun t => CharSet.ofTable t.2

/-- A set named as a property, in loose form. -/
def property? (name : String) : Option CharSet :=
  if name = "whitespace" ∨ name = "space" ∨ name = "wspace" then some blankSet
  else if name = "asciihexdigit" ∨ name = "ahex" then some (CharSet.ofTable "30-39 41-46 61-66")
  else if name = "joincontrol" ∨ name = "joinc" then some (CharSet.range 0x200C 0x200D)
  else
    let long := ([("alpha", "alphabetic"), ("lower", "lowercase"), ("upper", "uppercase"),
      ("grext", "graphemeextend"), ("hex", "hexdigit"), ("ideo", "ideographic"),
      ("dia", "diacritic"), ("qmark", "quotationmark")].lookup name).getD name
    (Property.tables.find? fun t => looseName t.1 == long).map fun t => CharSet.ofTable t.2

/-- The set a single Unicode name stands for: a property, a category or a script. -/
def unicodeClass? (name : String) : Option CharSet :=
  let n := looseName name
  let asProperty := if n = "cf" ∨ n = "sc" ∨ n = "lc" then none else property? n
  asProperty.or ((category? n).or (script? n))

/-- The set a name and a value stand for. -/
def unicodeValue? (name value : String) : Option CharSet :=
  let n := looseName name
  if n = "gc" ∨ n = "generalcategory" then category? (looseName value)
  else if n = "sc" ∨ n = "script" ∨ n = "scx" ∨ n = "scriptextensions" then
    script? (looseName value)
  else none

end Mooring.Pattern
