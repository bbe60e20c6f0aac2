import Mooring.Path.Basic
import Mooring.Json.Writer
import Mooring.Text.Quoted

set_option autoImplicit false

/-!
# Why a path or filter is no path or filter

The tokens of a filter, the causes for which a path or filter is refused, and the message for each.
Positions count characters from zero.
-/

namespace Mooring.Path

/-- A token of a filter. The text of a path is read when the path is needed. -/
inductive Token where
  | path (text : List Char)
  | text (s : String)
  | number (d : Double)
  | bool (b : Bool)
  | null
  | regex (pattern : String)
  | openBracket
  | closeBracket
  | comma
  | openParen
  | closeParen
  | op (c : Comparison)
  | and
  | or
  | not
  deriving DecidableEq

/-- A cause for which a path or filter is refused. -/
inductive PathError where
  | empty
  | unexpectedChar (c : Char) (position : Nat)
  | expectedName (position : Nat)
  | expectedDescendant (position : Nat)
  | unclosedBracket (position : Nat)
  | filterForm (selector : List Char)
  | unsupportedSelector (selector : List Char)
  | unterminatedText (position : Nat)
  | unterminatedRegex (position : Nat)
  | unsupportedFlag (flag : Char)
  | invalidNumber (text : List Char)
  | unexpectedWord (word : List Char)
  | emptyFilter
  | trailing (t : Token)
  | missingParen
  | expectedComparison (operand : Operand)
  | regexNeeded
  | onlyLiterals
  | listSeparator
  | unexpectedToken (t : Token)
  | unexpectedEnd
  | invalidRegex

/-! ## Wording -/

/-- The name of a comparison in messages. -/
def Comparison.name : Comparison → String
  | eq => "Eq"
  | ne => "Ne"
  | lt => "Lt"
  | le => "Le"
  | gt => "Gt"
  | ge => "Ge"
  | isIn => "In"
  | notIn => "Nin"
  | like => "Match"

/-- A name with one argument in parentheses. -/
def applied (name argument : String) : String :=
  name ++ "(" ++ argument ++ ")"

/-- A token in messages. -/
def Token.shown : Token → String
  | path t => applied "Path" (Text.quoted (String.ofList t))
  | text s => applied "Str" (Text.quoted s)
  | number d => applied "Num" d.messageText
  | bool b => applied "Bool" (if b then "true" else "false")
  | null => "Null"
  | regex p => applied "Regex" (Text.quoted p)
  | openBracket => "LBracket"
  | closeBracket => "RBracket"
  | comma => "Comma"
  | openParen => "LParen"
  | closeParen => "RParen"
  | op c => applied "Op" c.name
  | and => "And"
  | or => "Or"
  | not => "Not"

mutual

/-- A literal in messages. -/
def shownValue : Json → String
  | .null => "Null"
  | .bool b => applied "Bool" (if b then "true" else "false")
  | .num n => applied "Number" n.text
  | .str s => applied "String" (Text.quoted s)
  | .arr items => "Array [" ++ ", ".intercalate (shownItems items) ++ "]"
  | .obj members => "Object \x7b" ++ ", ".intercalate (shownMembers members) ++ "\x7d"
termination_by structural v => v

/-- The items of a list in messages. -/
def shownItems : List Json → List String
  | [] => []
  | x :: xs => shownValue x :: shownItems xs
termination_by structural xs => xs

/-- A member in messages. -/
def shownMember : String × Json → String
  | (k, v) => Text.quoted k ++ ": " ++ shownValue v
termination_by structural m => m

/-- The members of an object in messages. -/
def shownMembers : List (String × Json) → List String
  | [] => []
  | m :: ms => shownMember m :: shownMembers ms
termination_by structural ms => ms

end

/-- An operand in messages; a path never stands there. -/
def Operand.shown : Operand → String
  | .literal v => applied "Literal" (shownValue v)
  | .regex r => applied "Regex" (applied "Regex" (Text.quoted r.source))
  | .path _ _ => "Path"

/-- The message for a cause. -/
def PathError.message : PathError → String
  | empty => "empty expression"
  | unexpectedChar c n => s!"unexpected character '{c}' at position {n}"
  | expectedName n => s!"expected a field name at position {n}"
  | expectedDescendant n => s!"expected a field name after '..' at position {n}"
  | unclosedBracket n => s!"unclosed '[' at position {n}"
  | filterForm s => s!"filter must be written as [?(...)], got [{String.ofList s}]"
  | unsupportedSelector s => s!"unsupported bracket selector [{String.ofList s}]"
  | unterminatedText n => s!"unterminated string starting at position {n}"
  | unterminatedRegex n => s!"unterminated regex starting at position {n}"
  | unsupportedFlag c => s!"unsupported regex flag '{c}'"
  | invalidNumber s => s!"invalid number '{String.ofList s}'"
  | unexpectedWord s => s!"unexpected word '{String.ofList s}'"
  | emptyFilter => "empty filter"
  | trailing t => s!"unexpected trailing token {t.shown}"
  | missingParen => "missing ')'"
  | expectedComparison o => s!"expected a comparison after {o.shown}"
  | regexNeeded => "'=~' requires a regex on its right-hand side"
  | onlyLiterals => "list literals may only contain literals"
  | listSeparator => "expected ',' or ']' in list"
  | unexpectedToken t => s!"unexpected token {t.shown}"
  | unexpectedEnd => "unexpected end of filter"
  | invalidRegex => "invalid regex"

end Mooring.Path
