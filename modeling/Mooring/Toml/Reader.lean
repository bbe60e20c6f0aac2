import Mooring.Double.Text
import Mooring.Json.Reader
import Mooring.Text.Search
import Mooring.Time.Instant
import Mooring.Toml.Basic

set_option autoImplicit false

/-!
# Reading TOML

A document is read line by line: a key with its value, the header of a table, or nothing. Each
reader takes what it reads from the front of the text and returns the rest. Values nest to a limited
depth, on which their reader recurses; repetitions are bounded by the length of the text.
-/

namespace Mooring.Toml

/-! ## Blanks and comments -/

/-- Blanks within a line. -/
def isTomlBlank (c : Char) : Bool :=
  c == ' ' || c == '\t'

/-- The text after the blanks at its front. -/
def skipBlanks (cs : List Char) : List Char :=
  cs.dropWhile isTomlBlank

/-- The characters that may stand in a comment or in a string between literal quotes. -/
def isPlain (c : Char) : Bool :=
  c == '\t' || (0x20 ≤ c.toNat && c.toNat != 0x7F)

/-- What follows the end of a line. -/
def lineEnd? : List Char → Option (List Char)
  | '\n' :: cs => some cs
  | '\r' :: '\n' :: cs => some cs
  | _ => none

/-- The text after a comment, if it starts with one. -/
def skipComment : List Char → List Char
  | '#' :: cs => cs.dropWhile isPlain
  | cs => cs

/-- What follows the rest of a line on which nothing more is said. -/
def endOfStatement? (cs : List Char) : Option (List Char) :=
  match skipComment (skipBlanks cs) with
  | [] => some []
  | rest => lineEnd? rest

/-- The text after blanks, comments and line ends; `fuel` bounds the number of lines. -/
def skipLines : Nat → List Char → List Char
  | 0, cs => cs
  | fuel + 1, cs =>
    let rest := skipComment (skipBlanks cs)
    match lineEnd? rest with
    | some after => skipLines fuel after
    | none => rest

/-! ## Strings -/

/-- The character an escape stands for, and what follows it. -/
def escape? : List Char → Option (Char × List Char)
  | 'b' :: cs => some ('\x08', cs)
  | 't' :: cs => some ('\t', cs)
  | 'n' :: cs => some ('\n', cs)
  | 'f' :: cs => some ('\x0c', cs)
  | 'r' :: cs => some ('\r', cs)
  | '"' :: cs => some ('"', cs)
  | '\\' :: cs => some ('\\', cs)
  | 'u' :: cs => scalar? 4 cs
  | 'U' :: cs => scalar? 8 cs
  | _ => none
where
  /-- The character of a number of hexadecimal digits. -/
  scalar? (width : Nat) (cs : List Char) : Option (Char × List Char) := do
    if cs.length < width then none
    let digits ← (cs.take width).mapM Json.hexValue?
    let n := digits.foldl (fun n d => 16 * n + d) 0
    if h : n.isValidChar then some (Char.ofNatAux n h, cs.drop width) else none

/-- The rest of a string in double quotes, on one line; `fuel` bounds its characters. -/
def basicString? : Nat → List Char → Option (List Char × List Char)
  | 0, _ => none
  | fuel + 1, cs =>
    match cs with
    | '"' :: rest => some ([], rest)
    | '\\' :: rest => do
      let (c, rest) ← escape? rest
      let (text, rest) ← basicString? fuel rest
      return (c :: text, rest)
    | c :: rest =>
      if isPlain c then (basicString? fuel rest).map fun r => (c :: r.1, r.2) else none
    | [] => none

/-- The rest of a string in single quotes, on one line. -/
def literalString? : List Char → Option (List Char × List Char)
  | '\'' :: rest => some ([], rest)
  | c :: rest => if isPlain c then (literalString? rest).map fun r => (c :: r.1, r.2) else none
  | [] => none

/-- The quotes at the front of a text: of five, three end a long string and two belong to it. -/
def closingQuotes? (q : Char) (cs : List Char) : Option (Nat × List Char) :=
  let n := min 5 (cs.takeWhile (· == q)).length
  if n < 3 then none else some (n - 3, cs.drop n)

/-- The text after a backslash at the end of a line: all blanks and line ends that follow. -/
def skipFolded (fuel : Nat) (cs : List Char) : Option (List Char) :=
  match lineEnd? (skipBlanks cs) with
  | some rest => some (go fuel rest)
  | none => none
where
  /-- The text after blanks and line ends. -/
  go : Nat → List Char → List Char
    | 0, cs => cs
    | fuel + 1, cs =>
      match lineEnd? (skipBlanks cs) with
      | some rest => go fuel rest
      | none => skipBlanks cs

/-- The rest of a long string; escapes count only in double quotes. -/
def longString? (q : Char) : Nat → List Char → Option (List Char × List Char)
  | 0, _ => none
  | fuel + 1, cs =>
    match closingQuotes? q cs with
    | some (n, rest) => some (List.replicate n q, rest)
    | none =>
      match cs with
      | '\\' :: rest =>
        if q = '"' then
          match skipFolded fuel rest with
          | some rest => longString? q fuel rest
          | none => do
            let (c, rest) ← escape? rest
            let (text, rest) ← longString? q fuel rest
            return (c :: text, rest)
        else (longString? q fuel rest).map fun r => ('\\' :: r.1, r.2)
      | c :: rest =>
        if isPlain c then (longString? q fuel rest).map fun r => (c :: r.1, r.2)
        else do
          let rest ← lineEnd? cs
          let (text, rest) ← longString? q fuel rest
          return ('\n' :: text, rest)
      | [] => none

/-- A string of any form, and what follows it; a line end right after the opening quotes of a long
one does not count. -/
def string? (cs : List Char) : Option (List Char × List Char) :=
  match cs with
  | '"' :: '"' :: '"' :: rest => longString? '"' (rest.length + 1) ((lineEnd? rest).getD rest)
  | '\'' :: '\'' :: '\'' :: rest => longString? '\'' (rest.length + 1) ((lineEnd? rest).getD rest)
  | '"' :: rest => basicString? (rest.length + 1) rest
  | '\'' :: rest => literalString? rest
  | _ => none

/-! ## Keys -/

/-- The characters of a key without quotes. -/
def isKeyChar (c : Char) : Bool :=
  c.isAlphanum || c == '_' || c == '-'

/-- One key. -/
def simpleKey? (cs : List Char) : Option (String × List Char) :=
  match cs with
  | '"' :: rest => (basicString? (rest.length + 1) rest).map fun r => (String.ofList r.1, r.2)
  | '\'' :: rest => (literalString? rest).map fun r => (String.ofList r.1, r.2)
  | _ =>
    let key := cs.takeWhile isKeyChar
    if key.isEmpty then none else some (String.ofList key, cs.dropWhile isKeyChar)

/-- The keys joined by points at the front of a text, blanks around each allowed: all but the last,
and the last. -/
def key? : Nat → List Char → Option (List String × String × List Char)
  | 0, _ => none
  | fuel + 1, cs => do
    let (key, rest) ← simpleKey? (skipBlanks cs)
    match skipBlanks rest with
    | '.' :: rest =>
      let (path, last, rest) ← key? fuel rest
      return (key :: path, last, rest)
    | rest => return ([], key, rest)

/-! ## Numbers and times -/

/-- Digits with single underscores between them, without the underscores. -/
def digitRun? (isDigit : Char → Bool) : List Char → Option (List Char)
  | [] => none
  | [c] => if isDigit c then some [c] else none
  | c :: '_' :: rest => if isDigit c then (digitRun? isDigit rest).map (c :: ·) else none
  | c :: rest => if isDigit c then (digitRun? isDigit rest).map (c :: ·) else none

/-- An integer of the signed 64-bit range. -/
def inRange? (n : Int) : Option Int :=
  if -Int.pow 2 63 ≤ n ∧ n < Int.pow 2 63 then some n else none

/-- Decimal digits that do not start with a needless zero. -/
def wholeDigits? (cs : List Char) : Option (List Char) := do
  let ds ← digitRun? Char.isDigit cs
  if ds.length > 1 ∧ ds.head? = some '0' then none else some ds

/-- An integer in the base of a letter. -/
def prefixed? (letter : Char) (cs : List Char) : Option Int := do
  let base ← [('x', 16), ('o', 8), ('b', 2)].lookup letter
  let ds ← digitRun? (fun c => (Json.hexValue? c).any (· < base)) cs
  let values ← ds.mapM Json.hexValue?
  inRange? (values.foldl (fun n d => base * n + d) 0 : Nat)

/-- A number without its sign: the text in front of an exponent, and the exponent. -/
def floatOf? (negative : Bool) (cs : List Char) : Option Double := do
  let mantissa := cs.takeWhile fun c => c != 'e' && c != 'E'
  let exponent := cs.dropWhile fun c => c != 'e' && c != 'E'
  let whole ← wholeDigits? (mantissa.takeWhile (· != '.'))
  let point := mantissa.dropWhile (· != '.')
  let part ← if point.isEmpty then some [] else digitRun? Char.isDigit point.tail
  let e ← match exponent with
    | [] => some []
    | _ :: '-' :: ds => (digitRun? Char.isDigit ds).map ('-' :: ·)
    | _ :: '+' :: ds => digitRun? Char.isDigit ds
    | _ :: ds => digitRun? Char.isDigit ds
  if point.isEmpty ∧ exponent.isEmpty then none
  let text := whole ++ (if part.isEmpty then [] else '.' :: part) ++
    (if e.isEmpty then [] else 'e' :: e)
  let d ← Double.readText? ((if negative then ['-'] else []) ++ text)
  if d.isFinite then some d else none

/-- The number a whole word writes. -/
def number? (word : List Char) : Option Toml :=
  let (negative, digits) := match word with
    | '-' :: rest => (true, rest)
    | '+' :: rest => (false, rest)
    | rest => (false, rest)
  match digits with
  | ['i', 'n', 'f'] => some (.float (Double.infinity negative))
  | ['n', 'a', 'n'] => some (.float Double.nan)
  | _ =>
    match word with
    | '0' :: letter :: rest =>
      if letter.isAlpha && letter != 'e' && letter != 'E' then (prefixed? letter rest).map .integer
      else decimal negative digits
    | _ => decimal negative digits
where
  /-- The number of a decimal text. -/
  decimal (negative : Bool) (digits : List Char) : Option Toml :=
    match wholeDigits? digits with
    | some ds =>
      let n : Int := Double.ofDigits ds
      (inRange? (if negative then -n else n)).map .integer
    | none => (floatOf? negative digits).map .float

/-- A number of exactly as many digits. -/
def fixed? (width : Nat) (cs : List Char) : Option (Nat × List Char) :=
  let ds := cs.take width
  if ds.length = width ∧ ds.all Char.isDigit then some (Double.ofDigits ds, cs.drop width) else none

/-- The text after a given character. -/
def mark? (c : Char) : List Char → Option (List Char)
  | d :: cs => if c = d then some cs else none
  | [] => none

/-- What follows a date. -/
def date? (cs : List Char) : Option (List Char) := do
  let (year, cs) ← fixed? 4 cs
  let cs ← mark? '-' cs
  let (month, cs) ← fixed? 2 cs
  let cs ← mark? '-' cs
  let (day, cs) ← fixed? 2 cs
  if Date.isValid ⟨year, month, day⟩ then some cs else none

/-- What follows a time of day. -/
def timeOfDay? (cs : List Char) : Option (List Char) := do
  let (hour, cs) ← fixed? 2 cs
  let cs ← mark? ':' cs
  let (minute, cs) ← fixed? 2 cs
  let cs ← mark? ':' cs
  let (second, cs) ← fixed? 2 cs
  if hour > 23 ∨ minute > 59 ∨ second > 60 then none
  match cs with
  | '.' :: c :: rest => if c.isDigit then some (rest.dropWhile Char.isDigit) else none
  | '.' :: [] => none
  | rest => some rest

/-- What follows an offset, if there is one. -/
def offset? (cs : List Char) : Option (List Char) :=
  match cs with
  | 'Z' :: rest | 'z' :: rest => some rest
  | '+' :: rest | '-' :: rest => do
    let (hours, rest) ← fixed? 2 rest
    let rest ← mark? ':' rest
    let (minutes, rest) ← fixed? 2 rest
    if hours > 23 ∨ minutes > 59 then none else some rest
  | rest => some rest

/-- What follows a date, a time, or both. -/
def afterDateTime? (cs : List Char) : Option (List Char) :=
  match date? cs with
  | none => timeOfDay? cs
  | some rest =>
    match rest with
    | 'T' :: time | 't' :: time => (timeOfDay? time).bind offset?
    | ' ' :: time => some (((timeOfDay? time).bind offset?).getD rest)
    | _ => some rest

/-! ## Values -/

/-- The characters of a number, a truth value or a time. -/
def isValueChar (c : Char) : Bool :=
  c.isAlphanum || "+-_.:".toList.contains c

/-- A number, a truth value or a time. -/
def scalar? (cs : List Char) : Option (Toml × List Char) :=
  match afterDateTime? cs with
  | some rest => some (.dateTime (String.ofList (cs.take (cs.length - rest.length))), rest)
  | none =>
    let word := cs.takeWhile isValueChar
    let rest := cs.dropWhile isValueChar
    match String.ofList word with
    | "true" => some (.boolean true, rest)
    | "false" => some (.boolean false, rest)
    | _ => (number? word).map fun v => (v, rest)

section Nested

variable (read : List Char → Option (Toml × List Char))

/-- The rest of an array, line ends and comments anywhere between its items. -/
def items? : Nat → List Char → Option (List Toml × List Char)
  | 0, _ => none
  | fuel + 1, cs =>
    match skipLines cs.length cs with
    | ']' :: rest => some ([], rest)
    | cs => do
      let (v, rest) ← read cs
      match skipLines rest.length rest with
      | ',' :: rest =>
        let (vs, rest) ← items? fuel rest
        return (v :: vs, rest)
      | ']' :: rest => return ([v], rest)
      | _ => none

/-- The members of an inline table from the first on, given those before it. -/
def inlineMembers? : Nat → Members → List Char → Option (Members × List Char)
  | 0, _, _ => none
  | fuel + 1, ms, cs => do
    let (path, key, rest) ← key? (cs.length + 1) cs
    let rest ← mark? '=' rest
    let (v, rest) ← read (skipBlanks rest)
    let ms ← define path key v .inline ms
    match skipBlanks rest with
    | ',' :: rest => inlineMembers? fuel ms rest
    | '\x7d' :: rest => return (ms, rest)
    | _ => none

end Nested

/-- A value that nests at most `depth` deep. -/
def value? : Nat → List Char → Option (Toml × List Char)
  | 0, cs =>
    match string? cs with
    | some (s, rest) => some (.string (String.ofList s), rest)
    | none => scalar? cs
  | depth + 1, cs =>
    match cs with
    | '[' :: rest => (items? (value? depth) (rest.length + 1) rest).map fun r => (.array r.1, r.2)
    | '\x7b' :: rest =>
      match skipBlanks rest with
      | '\x7d' :: rest => some (.table .inline [], rest)
      | rest =>
        (inlineMembers? (value? depth) (rest.length + 1) [] rest).map fun r =>
          (.table .inline r.1, r.2)
    | cs =>
      match string? cs with
      | some (s, rest) => some (.string (String.ofList s), rest)
      | none => scalar? cs

/-- How deep values may nest. -/
def maxNesting : Nat := 79

/-! ## Documents -/

/-- A document being read: its members, and the path of the table that is open. -/
structure Reading where
  members : Members := []
  current : List String := []

/-- One statement: a header or a key with its value. -/
def statement? (r : Reading) (cs : List Char) : Option (Reading × List Char) :=
  match cs with
  | '[' :: '[' :: rest => do
    let (path, key, rest) ← key? (rest.length + 1) rest
    let rest ← mark? ']' rest
    let rest ← mark? ']' rest
    return (⟨← openNext path key r.members, path ++ [key]⟩, rest)
  | '[' :: rest => do
    let (path, key, rest) ← key? (rest.length + 1) rest
    let rest ← mark? ']' rest
    return (⟨← openTable path key r.members, path ++ [key]⟩, rest)
  | cs => do
    let (path, key, rest) ← key? (cs.length + 1) cs
    let rest ← mark? '=' rest
    let (v, rest) ← value? maxNesting (skipBlanks rest)
    return ({ r with members := ← defineIn r.current path key v r.members }, rest)

/-- The document from a line on. -/
def readFrom? : Nat → Reading → List Char → Option Members
  | 0, _, _ => none
  | fuel + 1, r, cs =>
    match skipLines cs.length cs with
    | [] => some r.members
    | cs => do
      let (r, rest) ← statement? r cs
      readFrom? fuel r (← endOfStatement? rest)

/-- The members of the document a text writes. -/
def read? (s : String) : Option Members :=
  let cs := match s.toList with
    | '\uFEFF' :: cs => cs
    | cs => cs
  readFrom? (cs.length + 1) {} cs

end Mooring.Toml
