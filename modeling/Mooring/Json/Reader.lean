import Mooring.Json.Basic
import Mooring.Double.Text

set_option autoImplicit false

/-!
# Reading JSON

A text is cut into tokens by one pass over its characters, and a stack of open brackets turns the
tokens into a document. `Json.read?` keeps the last of repeated members, and brackets nest at most
`maxDepth` deep in it. `Json.readAll?` is for a structure that is read from the text: it keeps
repeated members, which the structure refuses, and what no value holds may stand wherever the
structure does not look, at any depth.
-/

namespace Mooring.Json

/-! ## Tokens -/

/-- A token of JSON. -/
inductive Token where
  | openArray
  | closeArray
  | openObject
  | closeObject
  | comma
  | colon
  | text (s : String)
  | number (v : Json)
  | word (name : String) (value : Option Json)
  /-- a string or a number of the grammar that no value holds -/
  | unheld (isText : Bool)

/-- The characters JSON allows between tokens. -/
def isJsonBlank (c : Char) : Bool :=
  c == ' ' || c == '\n' || c == '\t' || c == '\r'

/-- The value of a hexadecimal digit. -/
def hexValue? (c : Char) : Option Nat :=
  if '0' ≤ c ∧ c ≤ '9' then some (c.toNat - '0'.toNat)
  else if 'a' ≤ c ∧ c ≤ 'f' then some (c.toNat - 'a'.toNat + 10)
  else if 'A' ≤ c ∧ c ≤ 'F' then some (c.toNat - 'A'.toNat + 10)
  else none

/-- The number written by four hexadecimal digits. -/
def hexUnit? (a b c d : Char) : Option Nat := do
  return ((← hexValue? a) * 16 + (← hexValue? b)) * 256 + ((← hexValue? c) * 16 + (← hexValue? d))

/-- The character an escape of one letter stands for. -/
def simpleEscape? : Char → Option Char
  | '"' => some '"'
  | '\\' => some '\\'
  | '/' => some '/'
  | 'b' => some '\x08'
  | 'f' => some '\x0c'
  | 'n' => some '\n'
  | 'r' => some '\r'
  | 't' => some '\t'
  | _ => none

/-- The text a quoted string stands for. Two escapes of four digits that form a surrogate pair
stand for one character, a surrogate alone for none; a control character must be escaped. -/
def unescape? : List Char → Option (List Char)
  | [] => some []
  | '\\' :: 'u' :: a :: b :: c :: d :: '\\' :: 'u' :: e :: f :: g :: h :: rest => do
    let unit ← hexUnit? a b c d
    if 0xD800 ≤ unit ∧ unit < 0xDC00 then
      let low ← hexUnit? e f g h
      if 0xDC00 ≤ low ∧ low < 0xE000 then
        return Char.ofNat (0x10000 + (unit - 0xD800) * 0x400 + (low - 0xDC00)) :: (← unescape? rest)
      else none
    else if 0xDC00 ≤ unit ∧ unit < 0xE000 then none
    else return Char.ofNat unit :: (← unescape? ('\\' :: 'u' :: e :: f :: g :: h :: rest))
  | '\\' :: 'u' :: a :: b :: c :: d :: rest => do
    let unit ← hexUnit? a b c d
    if 0xD800 ≤ unit ∧ unit < 0xE000 then none
    else return Char.ofNat unit :: (← unescape? rest)
  | '\\' :: e :: rest => do return (← simpleEscape? e) :: (← unescape? rest)
  | c :: rest => if c = '\\' ∨ c.toNat < 0x20 then none else do return c :: (← unescape? rest)

/-- Whether the characters between two quotes are a string of the grammar, a surrogate alone
included. -/
def isQuoted : List Char → Bool
  | [] => true
  | '\\' :: 'u' :: a :: b :: c :: d :: rest => (hexUnit? a b c d).isSome && isQuoted rest
  | '\\' :: e :: rest => (simpleEscape? e).isSome && isQuoted rest
  | c :: rest => c ≠ '\\' && 0x20 ≤ c.toNat && isQuoted rest

/-- The token of the characters between two quotes. -/
def textToken? (cs : List Char) : Option Token :=
  match unescape? cs with
  | some s => some (.text (String.ofList s))
  | none => if isQuoted cs then some (.unheld true) else none

/-- The significand `n` followed by as many of the digits as 64 bits can hold, and how many those
are. -/
def takeDigits (n : Nat) : List Char → Nat × Nat
  | [] => (n, 0)
  | c :: cs =>
    let next := n * 10 + Double.digitValue c
    if next < Nat.pow 2 64 then
      let (m, taken) := takeDigits next cs
      (m, taken + 1)
    else (n, 0)

/-- The double of digits around a point. Digits that do not fit the significand are dropped; those
before the point raise the exponent. -/
def cutDouble? (negative : Bool) (whole part : List Char) (e : Int) : Option Double :=
  let (n, taken) := takeDigits 0 whole
  let (m, takenPart) := takeDigits n part
  Double.ofSignificand? negative m (e + (whole.length - taken : Nat) - takenPart)

/-- A number as it is written: its sign, what follows the sign, and the parts of that. -/
structure Numeral where
  negative : Bool
  body : List Char
  written : Double.Written

/-- The number that a run of number characters writes: no leading zero, digits on both sides of a
point. -/
def numeral? (cs : List Char) : Option Numeral := do
  let (negative, body) := match cs with
    | '-' :: r => (true, r)
    | r => (false, r)
  let w ← Double.Written.ofText? body
  guard (w.whole ≠ [] ∧ (w.whole.head? ≠ some '0' ∨ w.whole.length = 1))
  guard (body.contains '.' → w.part ≠ [])
  return ⟨negative, body, w⟩

/-- The value of a number, if a double holds it. Integers of at most 64 bits stay integers, with
`-0` a double. -/
def Numeral.value? (n : Numeral) : Option JsonNumber :=
  let whole : Int := Double.ofDigits n.written.whole
  let i := if n.negative then -whole else whole
  if n.body.all Char.isDigit ∧ (i ≠ 0 ∨ !n.negative) ∧ -Int.pow 2 63 ≤ i ∧ i < Int.pow 2 64 then
    some (.int i)
  else (cutDouble? n.negative n.written.whole n.written.part n.written.exponent).map .double

/-- The token of a number. -/
def Numeral.token (n : Numeral) : Token :=
  match n.value? with
  | some v => .number (.num v)
  | none => .unheld false

/-- What the lexer is in the middle of, what it has read of it reversed. -/
inductive Mode where
  | between
  | inText (read : List Char)
  | inEscape (read : List Char)
  | inNumber (read : List Char)
  | inWord (read : List Char)

/-- The token of one punctuation character. -/
def punctuation? : Char → Option Token
  | '[' => some .openArray
  | ']' => some .closeArray
  | '\x7b' => some .openObject
  | '\x7d' => some .closeObject
  | ',' => some .comma
  | ':' => some .colon
  | _ => none

/-- The value a literal name stands for. -/
def literal? (name : String) : Option Json :=
  if name = "null" then some .null
  else if name = "true" then some (.bool true)
  else if name = "false" then some (.bool false)
  else none

/-- The characters a number is made of. -/
def isNumberChar (c : Char) : Bool :=
  c.isDigit || c == '-' || c == '+' || c == '.' || c == 'e' || c == 'E'

/-- The mode in which a character that starts a token, or stands between two, leaves the lexer,
and the token it is by itself. -/
def startMode? (c : Char) : Option (Option Token × Mode) :=
  if isJsonBlank c then some (none, .between)
  else if c = '"' then some (none, .inText [])
  else if c.isDigit ∨ c = '-' then some (none, .inNumber [c])
  else if c.isAlpha then some (none, .inWord [c])
  else (punctuation? c).map fun t => (some t, .between)

/-- The token that ends where a mode ends. -/
def Mode.finish? : Mode → Option (Option Token)
  | .between => some none
  | .inNumber read => (numeral? read.reverse).map fun n => some n.token
  | .inWord read =>
    let name := String.ofList read.reverse
    (literal? name).map fun v => some (.word name v)
  | .inText _ => none
  | .inEscape _ => none

/-- The tokens of a text, read in a mode. -/
def tokensIn? : Mode → List Char → Option (List Token)
  | mode, [] => do return (← mode.finish?).toList
  | .inText read, c :: cs =>
    if c = '"' then do
      let t ← textToken? read.reverse
      return t :: (← tokensIn? .between cs)
    else tokensIn? (if c = '\\' then .inEscape (c :: read) else .inText (c :: read)) cs
  | .inEscape read, c :: cs => tokensIn? (.inText (c :: read)) cs
  | .inNumber read, c :: cs =>
    if isNumberChar c then tokensIn? (.inNumber (c :: read)) cs
    else do
      let ended ← (Mode.inNumber read).finish?
      let (started, mode) ← startMode? c
      return ended.toList ++ started.toList ++ (← tokensIn? mode cs)
  | .inWord read, c :: cs =>
    if c.isAlpha then tokensIn? (.inWord (c :: read)) cs
    else do
      let ended ← (Mode.inWord read).finish?
      let (started, mode) ← startMode? c
      return ended.toList ++ started.toList ++ (← tokensIn? mode cs)
  | .between, c :: cs => do
    let (started, mode) ← startMode? c
    return started.toList ++ (← tokensIn? mode cs)

/-- The tokens of a text. -/
def tokens? (s : String) : Option (List Token) :=
  tokensIn? .between s.toList

/-! ## Documents -/

/-- What stands for a value that the text writes and nothing holds. No text writes the NaN, and no
field takes it but one for doubles. -/
def unheld : Json :=
  .num (.double .nan)

/-- An open bracket with what it holds so far, the last entry first. The members of an object cannot
be held once one of their names cannot. -/
inductive Frame where
  | array (items : List Json)
  | object (members : Option (List (String × Json))) (name : String)

/-- What may come next. -/
inductive Expected where
  | value
  | firstItem
  | firstName
  | name
  | colon
  | separator
  | nothing

/-- A document being built. -/
structure Builder where
  frames : List Frame
  expected : Expected
  result : Json

/-- The builder before the first token. -/
def Builder.empty : Builder :=
  ⟨[], .value, .null⟩

/-- Put a finished value where it belongs. -/
def Builder.place (frames : List Frame) (v : Json) : Builder :=
  match frames with
  | [] => ⟨[], .nothing, v⟩
  | .array items :: rest => ⟨.array (v :: items) :: rest, .separator, .null⟩
  | .object members name :: rest =>
    ⟨.object (members.map ((name, v) :: ·)) "" :: rest, .separator, .null⟩

/-- The value of a frame whose bracket closes. -/
def Frame.close : Frame → Json
  | .array items => .arr items.reverse
  | .object (some members) _ => .obj members.reverse
  | .object none _ => unheld

/-- How deep brackets may nest. -/
def maxDepth : Nat := 127

/-- Open a bracket. -/
def Builder.push? (frames : List Frame) (limit : Option Nat) (frame : Frame)
    (expected : Expected) : Option Builder :=
  if limit.any (· ≤ frames.length) then none else some ⟨frame :: frames, expected, .null⟩

/-- What a text may do beyond the strict grammar: `relaxed` allows a comma before a closing bracket
and a word as the name of a member; `depthLimit` bounds the nesting, if anything does; `lenient`
allows strings and numbers that no value holds. -/
structure Layout where
  relaxed : Bool
  depthLimit : Option Nat
  lenient : Bool

/-- Take one token. -/
def Builder.step? (layout : Layout) (b : Builder) (t : Token) : Option Builder :=
  match b.expected, t, b.frames with
  | .value, .text s, fs | .firstItem, .text s, fs => some (place fs (.str s))
  | .value, .number v, fs | .firstItem, .number v, fs => some (place fs v)
  | .value, .word _ (some v), fs | .firstItem, .word _ (some v), fs => some (place fs v)
  | .value, .unheld _, fs | .firstItem, .unheld _, fs =>
    if layout.lenient then some (place fs unheld) else none
  | .value, .openArray, fs | .firstItem, .openArray, fs =>
    push? fs layout.depthLimit (.array []) .firstItem
  | .value, .openObject, fs | .firstItem, .openObject, fs =>
    push? fs layout.depthLimit (.object (some []) "") .firstName
  | .firstItem, .closeArray, .array items :: fs => some (place fs (Frame.array items).close)
  | .firstName, .closeObject, .object ms n :: fs => some (place fs (Frame.object ms n).close)
  | .firstName, .text s, .object ms _ :: fs | .name, .text s, .object ms _ :: fs =>
    some ⟨.object ms s :: fs, .colon, .null⟩
  | .firstName, .unheld true, .object _ _ :: fs | .name, .unheld true, .object _ _ :: fs =>
    if layout.lenient then some ⟨.object none "" :: fs, .colon, .null⟩ else none
  | .firstName, .word s _, .object ms _ :: fs | .name, .word s _, .object ms _ :: fs =>
    if layout.relaxed then some ⟨.object ms s :: fs, .colon, .null⟩ else none
  | .colon, .colon, fs => some ⟨fs, .value, .null⟩
  | .separator, .comma, .array items :: fs =>
    some ⟨.array items :: fs, if layout.relaxed then .firstItem else .value, .null⟩
  | .separator, .comma, .object ms n :: fs =>
    some ⟨.object ms n :: fs, if layout.relaxed then .firstName else .name, .null⟩
  | .separator, .closeArray, .array items :: fs => some (place fs (Frame.array items).close)
  | .separator, .closeObject, .object ms n :: fs => some (place fs (Frame.object ms n).close)
  | _, _, _ => none

/-- The document of a list of tokens. -/
def build? (layout : Layout) (ts : List Token) : Option Json := do
  let b ← ts.foldlM (fun b t => b.step? layout t) Builder.empty
  match b.expected with
  | .nothing => some b.result
  | _ => none

/-- The strict layout: no trailing commas, limited depth. -/
def strictLayout : Layout :=
  ⟨false, some maxDepth, false⟩

/-- The layout of a text that a structure is read from: no trailing commas. -/
def structureLayout : Layout :=
  ⟨false, none, true⟩

/-- The document that a structure is read from, with every member of its objects. -/
def readAll? (s : String) : Option Json := do
  build? structureLayout (← tokens? s)

/-- The document a text writes; a repeated member keeps its first place and its last value. -/
def read? (s : String) : Option Json := do
  return normal (← build? strictLayout (← tokens? s))

end Mooring.Json
