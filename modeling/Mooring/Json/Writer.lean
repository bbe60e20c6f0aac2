import Mooring.Json.Basic
import Mooring.Double.Text

set_option autoImplicit false

/-!
# Writing JSON

Two layouts of one document: `compact`, without blanks, and `pretty`, with one item or member a
line, indented by two spaces a level. Strings keep every character but the quote, the backslash
and the control characters below the space.
-/

namespace Mooring

/-- The text of a number. -/
def JsonNumber.text : JsonNumber → String
  | .int n => toString n
  | .double d => d.jsonText

namespace Json

/-- A hexadecimal digit in lower case. -/
def hexDigit (n : Nat) : Char :=
  (Nat.toDigits 16 n).getLastD '0'

/-- How one character stands inside a quoted string. -/
def escapeChar (c : Char) : List Char :=
  match c with
  | '"' => ['\\', '"']
  | '\\' => ['\\', '\\']
  | '\n' => ['\\', 'n']
  | '\t' => ['\\', 't']
  | '\r' => ['\\', 'r']
  | '\x08' => ['\\', 'b']
  | '\x0c' => ['\\', 'f']
  | c =>
    if c.toNat < 0x20 then ['\\', 'u', '0', '0', hexDigit (c.toNat / 16), hexDigit (c.toNat % 16)]
    else [c]

/-- A string in quotes. -/
def quote (s : String) : String :=
  String.ofList ('"' :: s.toList.flatMap escapeChar ++ ['"'])

mutual

/-- The document without blanks. -/
def compact : Json → String
  | .null => "null"
  | .bool b => if b then "true" else "false"
  | .num n => n.text
  | .str s => quote s
  | .arr items => "[" ++ ",".intercalate (compactItems items) ++ "]"
  | .obj members => "\x7b" ++ ",".intercalate (compactMembers members) ++ "\x7d"
termination_by structural v => v

/-- The items without blanks. -/
def compactItems : List Json → List String
  | [] => []
  | x :: xs => compact x :: compactItems xs
termination_by structural xs => xs

/-- A member without blanks. -/
def compactMember : String × Json → String
  | (k, v) => quote k ++ ":" ++ compact v
termination_by structural m => m

/-- The members without blanks. -/
def compactMembers : List (String × Json) → List String
  | [] => []
  | m :: ms => compactMember m :: compactMembers ms
termination_by structural ms => ms

end

/-- Lines between brackets, each indented one level further than the brackets. -/
def bracketed (start stop : String) (indent : String) (entries : List String) : String :=
  if entries.isEmpty then start ++ stop
  else
    start ++ "\n" ++ ",\n".intercalate (entries.map fun e => indent ++ "  " ++ e) ++ "\n" ++ indent
      ++ stop

mutual

/-- The document with one entry a line, its own line starting at `indent`. -/
def prettyAt (indent : String) : Json → String
  | .arr items => bracketed "[" "]" indent (prettyItems (indent ++ "  ") items)
  | .obj members => bracketed "\x7b" "\x7d" indent (prettyMembers (indent ++ "  ") members)
  | .null => "null"
  | .bool b => if b then "true" else "false"
  | .num n => n.text
  | .str s => quote s
termination_by structural v => v

/-- The items of an array laid out at `indent`. -/
def prettyItems (indent : String) : List Json → List String
  | [] => []
  | x :: xs => prettyAt indent x :: prettyItems indent xs
termination_by structural xs => xs

/-- A member laid out at `indent`. -/
def prettyMember (indent : String) : String × Json → String
  | (k, v) => quote k ++ ": " ++ prettyAt indent v
termination_by structural m => m

/-- The members of an object laid out at `indent`. -/
def prettyMembers (indent : String) : List (String × Json) → List String
  | [] => []
  | m :: ms => prettyMember indent m :: prettyMembers indent ms
termination_by structural ms => ms

end

/-- The document with one item or member a line. -/
def pretty (v : Json) : String :=
  prettyAt "" v

/-- The text that stands for a value inside other text: a string as it is, anything else as
compact JSON. -/
def display : Json → String
  | .str s => s
  | v => compact v

/-- A string displays as itself. -/
@[simp] theorem display_str (s : String) : display (.str s) = s := rfl

end Json

end Mooring
