import Mooring.Json.Reader
import Mooring.Text.Letters

set_option autoImplicit false

/-!
# Relaxed JSON

The JSON5 form of a document: comments, trailing commas, words as member names, single quotes,
signed and hexadecimal numbers, and the names of infinity and of the NaN, both of which read as
null. Tokens are cut here; documents are built as for strict JSON, without a limit on depth.
-/

namespace Mooring.Json.Relaxed

/-! ## Characters -/

/-- The characters that end a line. -/
def isLineEnd (c : Char) : Bool :=
  c == '\n' || c == '\r' || c == '\u2028' || c == '\u2029'

/-- The separators of category `Zs`. -/
def spaceSeparators : Text.CharSet :=
  Text.Category.set .spaceSeparator

/-- The characters allowed between tokens. -/
def isRelaxedBlank (c : Char) : Bool :=
  isLineEnd c || c == '\t' || c == '\x0b' || c == '\x0c' || c == '\ufeff' ||
    (if c.toNat < 128 then c == ' ' else spaceSeparators.contains c)

/-- Letters and letter numbers. -/
def wordLetters : Text.CharSet :=
  Text.letters.union (Text.Category.set .letterNumber)

/-- Characters that continue a word but cannot start it. -/
def wordMarks : Text.CharSet :=
  Text.ofCategories [.nonspacingMark, .spacingMark, .decimalNumber, .connectorPunctuation]

/-- Whether a character can start a word. -/
def isWordStart (c : Char) : Bool :=
  c == '$' || c == '_' || (if c.toNat < 128 then c.isAlpha else wordLetters.contains c)

/-- Whether a character can continue a word. -/
def isWordPart (c : Char) : Bool :=
  isWordStart c || c == '\u200c' || c == '\u200d' ||
    (if c.toNat < 128 then c.isDigit else wordMarks.contains c)

/-! ## Strings and words -/

/-- The character after a backslash that stands for another one or for itself; digits, `x` and `u`
start longer escapes. -/
def relaxedEscape? : Char → Option Char
  | 'b' => some '\x08'
  | 'f' => some '\x0c'
  | 'n' => some '\n'
  | 'r' => some '\r'
  | 't' => some '\t'
  | 'v' => some '\x0b'
  | '0' => some '\x00'
  | c => if c.isDigit ∨ c = 'x' ∨ c = 'u' then none else some c

/-- The character of a code unit that is no surrogate. -/
def unitChar? (unit : Nat) : Option Char :=
  if 0xD800 ≤ unit ∧ unit < 0xE000 then none else some (Char.ofNat unit)

/-- The text a quoted string stands for; a backslash before a line end joins two lines. -/
def unescapeText? : List Char → Option (List Char)
  | [] => some []
  | '\\' :: '\r' :: '\n' :: rest => unescapeText? rest
  | '\\' :: 'x' :: a :: b :: rest => do
    return (← unitChar? (← hexUnit? '0' '0' a b)) :: (← unescapeText? rest)
  | '\\' :: 'u' :: a :: b :: c :: d :: rest => do
    return (← unitChar? (← hexUnit? a b c d)) :: (← unescapeText? rest)
  | '\\' :: e :: rest =>
    if isLineEnd e then unescapeText? rest
    else do return (← relaxedEscape? e) :: (← unescapeText? rest)
  | c :: rest =>
    if c = '\\' ∨ isLineEnd c then none else do return c :: (← unescapeText? rest)

/-- The name a word stands for, its escapes replaced. -/
def unescapeWord? : List Char → Option (List Char)
  | [] => some []
  | '\\' :: 'u' :: a :: b :: c :: d :: rest => do
    return (← unitChar? (← hexUnit? a b c d)) :: (← unescapeWord? rest)
  | c :: rest => if c = '\\' then none else do return c :: (← unescapeWord? rest)

/-- The value of a word that is a literal. -/
def relaxedLiteral? (raw : String) : Option Json :=
  if raw = "Infinity" ∨ raw = "NaN" then some .null else literal? raw

/-! ## Numbers -/

/-- Whether a text is a decimal number: no leading zero before another digit. -/
def isDecimalText (cs : List Char) : Bool :=
  match Double.Written.ofText? cs with
  | some w => !(w.whole.head? == some '0' && 1 < w.whole.length)
  | none => false

/-- The digits of a hexadecimal number after its mark. -/
def hexDigits? : List Char → Option (List Char)
  | '0' :: x :: d :: ds =>
    if (x = 'x' ∨ x = 'X') ∧ (d :: ds).all (fun c => (hexValue? c).isSome) then some (d :: ds)
    else none
  | _ => none

/-- The number that hexadecimal digits write. -/
def ofHexDigits (ds : List Char) : Nat :=
  ds.foldl (fun n c => n * 16 + (hexValue? c).getD 0) 0

/-- The value of a number: a hexadecimal number has no sign and at most 32 bits, an integer at most
64 with its sign, any other number is a finite double; only a minus may stand before a name. -/
def relaxedNumber? (cs : List Char) : Option Json := do
  match hexDigits? cs with
  | some ds =>
    let n := ofHexDigits ds
    if n < Nat.pow 2 32 then some (.num (.int n)) else none
  | none =>
    let (sign, body) := match cs with
      | '-' :: r => (some '-', r)
      | '+' :: r => (some '+', r)
      | r => (none, r)
    let name := String.ofList body
    if name = "Infinity" ∨ name = "NaN" then
      if sign = some '+' then none else some .null
    else if !isDecimalText body then none
    else if body.all Char.isDigit then
      let n : Int := if sign = some '-' then -(Double.ofDigits body : Int) else Double.ofDigits body
      if -Int.pow 2 63 ≤ n ∧ n < Int.pow 2 63 then some (.num (.int n)) else none
    else
      let d ← Double.readText? cs
      if d.isFinite then some (.num (.double d)) else none

/-! ## Tokens -/

/-- What the lexer is in the middle of, what it has read of it reversed. -/
inductive RelaxedMode where
  | between
  | inText (quote : Char) (read : List Char)
  | inEscape (quote : Char) (read : List Char)
  | inNumber (read : List Char)
  | inWord (read : List Char)
  | slash
  | lineComment
  | blockComment
  | blockStar

/-- The token that ends where a mode ends, if a token may end there. -/
def RelaxedMode.finish? : RelaxedMode → Option (Option Token)
  | .between | .lineComment => some none
  | .inNumber read => (relaxedNumber? read.reverse).map fun v => some (.number v)
  | .inWord read =>
    let raw := String.ofList read.reverse
    (unescapeWord? read.reverse).map fun name =>
      some (.word (String.ofList name) (relaxedLiteral? raw))
  | .inText _ _ | .inEscape _ _ | .slash | .blockComment | .blockStar => none

/-- The mode in which a character between tokens leaves the lexer, and the token it is. -/
def relaxedStart? (c : Char) : Option (Option Token × RelaxedMode) :=
  if isRelaxedBlank c then some (none, .between)
  else if c = '"' ∨ c = '\'' then some (none, .inText c [])
  else if c.isDigit ∨ c = '-' ∨ c = '+' ∨ c = '.' then some (none, .inNumber [c])
  else if isWordStart c ∨ c = '\\' then some (none, .inWord [c])
  else if c = '/' then some (none, .slash)
  else (punctuation? c).map fun t => (some t, .between)

/-- Whether a character continues a number. -/
def isRelaxedNumberChar (c : Char) : Bool :=
  c.isAlphanum || c == '.' || c == '+' || c == '-'

/-- The tokens of a text, read in a mode. -/
def relaxedTokensIn? : RelaxedMode → List Char → Option (List Token)
  | mode, [] => do return (← mode.finish?).toList
  | .inText q read, c :: cs =>
    if c = q then do
      let s ← unescapeText? read.reverse
      return .text (String.ofList s) :: (← relaxedTokensIn? .between cs)
    else relaxedTokensIn? (if c = '\\' then .inEscape q (c :: read) else .inText q (c :: read)) cs
  | .inEscape q read, c :: cs => relaxedTokensIn? (.inText q (c :: read)) cs
  | .inNumber read, c :: cs =>
    if isRelaxedNumberChar c then relaxedTokensIn? (.inNumber (c :: read)) cs
    else do
      let ended ← (RelaxedMode.inNumber read).finish?
      let (started, mode) ← relaxedStart? c
      return ended.toList ++ started.toList ++ (← relaxedTokensIn? mode cs)
  | .inWord read, c :: cs =>
    if isWordPart c ∨ c = '\\' then relaxedTokensIn? (.inWord (c :: read)) cs
    else do
      let ended ← (RelaxedMode.inWord read).finish?
      let (started, mode) ← relaxedStart? c
      return ended.toList ++ started.toList ++ (← relaxedTokensIn? mode cs)
  | .slash, c :: cs =>
    if c = '/' then relaxedTokensIn? .lineComment cs
    else if c = '*' then relaxedTokensIn? .blockComment cs
    else none
  | .lineComment, c :: cs => relaxedTokensIn? (if isLineEnd c then .between else .lineComment) cs
  | .blockComment, c :: cs => relaxedTokensIn? (if c = '*' then .blockStar else .blockComment) cs
  | .blockStar, c :: cs =>
    relaxedTokensIn?
      (if c = '/' then .between else if c = '*' then .blockStar else .blockComment) cs
  | .between, c :: cs => do
    let (started, mode) ← relaxedStart? c
    return started.toList ++ (← relaxedTokensIn? mode cs)

/-- The relaxed layout: trailing commas and word names, any depth. -/
def layout : Layout :=
  ⟨true, none, false⟩

/-- The document a relaxed text writes; a repeated member keeps its first place and its last
value. -/
def read? (s : String) : Option Json := do
  return normal (← build? layout (← relaxedTokensIn? .between s.toList))

end Mooring.Json.Relaxed
