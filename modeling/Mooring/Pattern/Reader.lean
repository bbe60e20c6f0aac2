import Mooring.Pattern.Basic
import Mooring.Pattern.Class
import Mooring.Json.Reader
import Mooring.Text.Blank

set_option autoImplicit false

/-!
# Reading regular expressions

The text of a pattern is read from the left, one piece after another, onto a stack of open groups.
A piece is a literal, a set, a condition, a repetition of the piece before it, or a bracket that
opens or closes a group. Sets in brackets have a stack of their own. Every loop is given as many
steps as there are characters left, and each takes one character at least.
-/

namespace Mooring.Pattern

open Mooring.Text

/-! ## Flags -/

/-- The settings that a pattern can change for part of itself. -/
structure Flags where
  caseless : Bool
  multiLine : Bool
  dotAll : Bool
  unicode : Bool
  extended : Bool
  returns : Bool

/-- The settings a pattern starts with. -/
def Flags.standard : Flags :=
  ⟨false, false, false, true, false, false⟩

/-- The settings with one flag turned on or off; a laziness flag changes nothing here. -/
def Flags.set? (f : Flags) (flag : Char) (on : Bool) : Option Flags :=
  match flag with
  | 'i' => some { f with caseless := on }
  | 'm' => some { f with multiLine := on }
  | 's' => some { f with dotAll := on }
  | 'u' => some { f with unicode := on }
  | 'x' => some { f with extended := on }
  | 'R' => some { f with returns := on }
  | 'U' => some f
  | _ => none

/-- The settings after a run of flags; no flag may stand there twice, and a minus needs a flag. -/
def Flags.setAll? (f : Flags) : Bool → List Char → List Char → Option Flags
  | _, _, [] => some f
  | on, seen, c :: cs =>
    if c = '-' then if on ∧ !cs.isEmpty then f.setAll? false seen cs else none
    else if seen.contains c then none
    else do (← f.set? c on).setAll? on (c :: seen) cs

/-- Passes over the blanks and comments of an extended pattern. -/
def skipBlanks (extended : Bool) : Nat → List Char → List Char
  | 0, cs => cs
  | n + 1, cs =>
    if !extended then cs
    else match cs with
      | c :: rest =>
        if isBlank c then skipBlanks extended n rest
        else if c = '#' then skipBlanks extended n ((rest.dropWhile (· != '\n')).drop 1)
        else cs
      | [] => []

/-- The text from the next character that counts. -/
def Flags.next (f : Flags) (cs : List Char) : List Char :=
  skipBlanks f.extended cs.length cs

/-- A set with its case variants where case does not count; outside Unicode only ASCII letters have
any. -/
def Flags.folded (f : Flags) (s : CharSet) : CharSet :=
  if !f.caseless then s else if f.unicode then foldClosure s else foldAsciiClosure s

/-! ## Escapes -/

/-- What an escape stands for. -/
inductive Piece where
  | literal (c : Char)
  | set (s : CharSet)
  | assertion (a : Assertion)

/-- The character of a code point that is no surrogate. -/
def scalar? (n : Nat) : Option Char :=
  if n < 0xD800 ∨ (0xE000 ≤ n ∧ n < 0x110000) then some (Char.ofNat n) else none

/-- The number that hexadecimal digits write. -/
def hexOf? (ds : List Char) : Option Nat :=
  if ds.isEmpty then none
  else ds.foldlM (fun n c => (Json.hexValue? c).map (n * 16 + ·)) 0

/-- A code point after its mark: hexadecimal digits in braces, or as many as the mark asks for. -/
def hexEscape? (width : Nat) (cs : List Char) : Option (Piece × List Char) := do
  match cs with
  | '\x7b' :: rest =>
    let (digits, rest) := cutBefore (· == '\x7d') rest
    match rest with
    | _ :: rest => return (.literal (← scalar? (← hexOf? digits)), rest)
    | [] => none
  | _ =>
    let digits := cs.take width
    if digits.length < width then none
    else return (.literal (← scalar? (← hexOf? digits)), cs.drop width)

/-- A character after the mark for two hexadecimal digits. Outside Unicode the digits write a byte,
and only ASCII is part of the text byte by byte. -/
def byteEscape? (f : Flags) (cs : List Char) : Option (Piece × List Char) := do
  match ← hexEscape? 2 cs with
  | (.literal c, rest) =>
    if !f.unicode ∧ cs.head? ≠ some '\x7b' ∧ 128 ≤ c.toNat then none else return (.literal c, rest)
  | other => return other

/-- A set, or its complement. -/
def orComplement (negated : Bool) (s : CharSet) : CharSet :=
  if negated then s.complement else s

/-- The text of a Unicode class as a set: a name, or a name and a value with `=`, `:` or `!=`
between. -/
def classQuery? (cs : List Char) : Option (Bool × CharSet) := do
  let (name, rest) := cutBefore (fun c => c == '=' || c == ':') cs
  match rest with
  | [] => return (false, ← unicodeClass? (String.ofList cs))
  | mark :: value =>
    if mark = '=' ∧ name.getLast? = some '!' then
      return (true, ← unicodeValue? (String.ofList name.dropLast) (String.ofList value))
    else return (false, ← unicodeValue? (String.ofList name) (String.ofList value))

/-- A Unicode class after its mark. -/
def unicodeEscape? (f : Flags) (negated : Bool) (cs : List Char) : Option (Piece × List Char) := do
  let (query, rest) ← match cs with
    | '\x7b' :: rest =>
      let (name, rest) := cutBefore (· == '\x7d') rest
      match rest with
      | _ :: rest => some (name, rest)
      | [] => none
    | c :: rest => if c = '\\' then none else some ([c], rest)
    | [] => none
  if !f.unicode then none
  let (differs, s) ← classQuery? query
  return (.set (orComplement (negated != differs) (f.folded s)), rest)

/-- The word characters under the settings. -/
def Flags.words (f : Flags) : CharSet :=
  if f.unicode then wordSet else asciiWordSet

/-- One of the sets with a letter for a name; outside Unicode it has no complement. -/
def letterSet? (f : Flags) (c : Char) : Option CharSet :=
  let pick (wide narrow : CharSet) (negated : Bool) : Option CharSet :=
    if f.unicode then some (orComplement negated wide)
    else if negated then none else some narrow
  match c with
  | 'd' => pick digitSet asciiDigitSet false
  | 'D' => pick digitSet asciiDigitSet true
  | 's' => pick blankSet asciiBlankSet false
  | 'S' => pick blankSet asciiBlankSet true
  | 'w' => pick wordSet asciiWordSet false
  | 'W' => pick wordSet asciiWordSet true
  | _ => none

/-- A word boundary, the side it asks for named in braces; braces that hold something else belong
to a repetition. -/
def wordBoundary? (f : Flags) (cs : List Char) : Option (Piece × List Char) :=
  let plain := some (.assertion (.wordBoundary f.words), cs)
  match cs with
  | '\x7b' :: rest =>
    let (name, after) := cutBefore (fun c => !(c.isAlpha || c == '-')) (f.next rest)
    if name.isEmpty then (if (f.next rest).isEmpty then none else plain)
    else match after with
      | '\x7d' :: after =>
        let a : Option Assertion := match String.ofList name with
          | "start" => some (.wordStart f.words)
          | "end" => some (.wordEnd f.words)
          | "start-half" => some (.wordStartHalf f.words)
          | "end-half" => some (.wordEndHalf f.words)
          | _ => none
        a.map fun a => (.assertion a, after)
      | _ => none
  | _ => plain

/-- What a backslash and the text after it stand for. -/
def escape? (f : Flags) : List Char → Option (Piece × List Char)
  | [] => none
  | c :: cs =>
    match c with
    | 'x' => byteEscape? f cs
    | 'u' => hexEscape? 4 cs
    | 'U' => hexEscape? 8 cs
    | 'p' => unicodeEscape? f false cs
    | 'P' => unicodeEscape? f true cs
    | 'a' => some (.literal '\x07', cs)
    | 'f' => some (.literal '\x0c', cs)
    | 't' => some (.literal '\t', cs)
    | 'n' => some (.literal '\n', cs)
    | 'r' => some (.literal '\r', cs)
    | 'v' => some (.literal '\x0b', cs)
    | 'A' => some (.assertion .textStart, cs)
    | 'z' => some (.assertion .textEnd, cs)
    | 'b' => wordBoundary? f cs
    | 'B' => some (.assertion (.noWordBoundary f.words), cs)
    | '<' => some (.assertion (.wordStart f.words), cs)
    | '>' => some (.assertion (.wordEnd f.words), cs)
    | c =>
      match letterSet? f c with
      | some s => some (.set s, cs)
      | none => if c.toNat < 128 ∧ !c.isAlphanum then some (.literal c, cs) else none

/-- The pattern of a piece. -/
def Piece.pattern (f : Flags) : Piece → Pattern
  | .literal c => .set (f.folded (CharSet.single c))
  | .set s => .set s
  | .assertion a => .assert a

/-! ## Sets in brackets -/

/-- The ways in which sets in brackets are combined. -/
inductive SetOp where
  | intersection
  | difference
  | symmetricDifference

/-- Combine two sets. -/
def SetOp.apply : SetOp → CharSet → CharSet → CharSet
  | intersection => CharSet.inter
  | difference => CharSet.diff
  | symmetricDifference => CharSet.symmDiff

/-- An open bracket: the set read so far and the combination it is the right side of. -/
structure SetFrame where
  negated : Bool
  current : CharSet
  pending : Option (SetOp × CharSet)

/-- The set of a frame so far. -/
def SetFrame.value (f : Flags) (frame : SetFrame) : CharSet :=
  match frame.pending with
  | some (op, left) => op.apply (f.folded left) (f.folded frame.current)
  | none => frame.current

/-- The set of a frame whose bracket closes; outside Unicode it has no complement. -/
def SetFrame.close? (f : Flags) (frame : SetFrame) : Option CharSet :=
  if frame.negated ∧ !f.unicode then none
  else some (orComplement frame.negated (f.folded (frame.value f)))

/-- A frame that holds more. -/
def SetFrame.add (frame : SetFrame) (s : CharSet) : SetFrame :=
  { frame with current := ⟨frame.current.ranges ++ s.ranges⟩ }

/-- The text after its leading hyphens. -/
def skipHyphens (f : Flags) : Nat → List Char → List Char
  | n + 1, '-' :: rest => skipHyphens f n (f.next rest)
  | _, cs => cs

/-- The text after an opening bracket: a caret, then hyphens or a closing bracket that stand for
themselves. -/
def openSet (f : Flags) (cs : List Char) : SetFrame × List Char :=
  let cs := f.next cs
  let (negated, cs) := match cs with
    | '^' :: rest => (true, f.next rest)
    | cs => (false, cs)
  let frame : SetFrame := ⟨negated, CharSet.empty, none⟩
  match cs with
  | '-' :: _ => (frame.add (CharSet.single '-'), skipHyphens f cs.length cs)
  | ']' :: rest => (frame.add (CharSet.single ']'), f.next rest)
  | _ => (frame, cs)

/-- An ASCII class after the bracket that opens it, and whether its complement is meant. -/
def asciiItem? : List Char → Option (Bool × CharSet × List Char)
  | ':' :: cs =>
    let (negated, cs) := match cs with
      | '^' :: rest => (true, rest)
      | cs => (false, cs)
    let (name, rest) := cutBefore (· == ':') cs
    match rest with
    | ':' :: ']' :: rest =>
      (asciiClass? (String.ofList name)).map fun s => (negated, s, rest)
    | _ => none
  | _ => none

/-- What a character or escape of a set stands for. -/
def setPiece? (f : Flags) : List Char → Option (Piece × List Char)
  | [] => none
  | '\\' :: cs => escape? f cs
  | c :: cs => some (.literal c, cs)

/-- One character or escape of a set. Outside Unicode sets hold ASCII characters only. -/
def setItem? (f : Flags) (cs : List Char) : Option (Piece × List Char) := do
  match ← setPiece? f cs with
  | (.literal c, rest) => if !f.unicode ∧ 128 ≤ c.toNat then none else return (.literal c, rest)
  | other => return other

/-- The set of an item; a condition is none. -/
def itemSet? : Piece → Option CharSet
  | .literal c => some (CharSet.single c)
  | .set s => some s
  | .assertion _ => none

/-- An item or a range of two characters. A hyphen before a closing bracket or another hyphen makes
no range. -/
def setRange? (f : Flags) (cs : List Char) : Option (CharSet × List Char) := do
  let (first, rest) ← setItem? f cs
  let rest := f.next rest
  let single := do return (← itemSet? first, rest)
  match rest with
  | [] => none
  | '-' :: after =>
    match f.next after with
    | [] => none
    | d :: _ =>
      if d = ']' ∨ d = '-' then single
      else
        let (second, rest) ← setItem? f (f.next after)
        match first, second with
        | .literal a, .literal b =>
          if a ≤ b then some (CharSet.range a.toNat b.toNat, f.next rest) else none
        | _, _ => none
  | _ => single

/-- The operator that starts here. -/
def setOp? : List Char → Option (SetOp × List Char)
  | '&' :: '&' :: cs => some (.intersection, cs)
  | '-' :: '-' :: cs => some (.difference, cs)
  | '~' :: '~' :: cs => some (.symmetricDifference, cs)
  | _ => none

/-- The set of a bracket whose frames are open, the innermost first, and what follows it. -/
def readSet? (f : Flags) : Nat → List SetFrame → List Char → Option (CharSet × List Char)
  | 0, _, _ => none
  | _, [], _ => none
  | fuel + 1, frame :: outer, cs =>
    match f.next cs with
    | [] => none
    | ']' :: rest => do
      let s ← frame.close? f
      match outer with
      | [] => some (s, rest)
      | parent :: outer => readSet? f fuel (parent.add s :: outer) rest
    | '[' :: rest =>
      match asciiItem? rest with
      | some (negated, s, rest) =>
        if negated ∧ !f.unicode then none
        else readSet? f fuel (frame.add (orComplement negated (f.folded s)) :: outer) rest
      | none =>
        let (inner, rest) := openSet f rest
        if 250 ≤ outer.length then none else readSet? f fuel (inner :: frame :: outer) rest
    | cs =>
      match setOp? cs with
      | some (op, rest) =>
        let left : SetFrame := ⟨frame.negated, CharSet.empty, some (op, frame.value f)⟩
        readSet? f fuel (left :: outer) rest
      | none => do
        let (s, rest) ← setRange? f cs
        readSet? f fuel (frame.add s :: outer) rest

/-- The set after an opening bracket. -/
def bracketSet? (f : Flags) (cs : List Char) : Option (CharSet × List Char) :=
  let (frame, rest) := openSet f cs
  readSet? f (rest.length + 1) [frame] rest

/-! ## Groups and repetitions -/

/-- An open group: the settings outside it, its finished alternatives and the pieces of the one
being read, both with the last first. A piece that only changes settings cannot be repeated. -/
structure Group where
  outside : Flags
  branches : List Pattern
  pieces : List (Pattern × Bool)

/-- Pieces, the last first, one after another. -/
def sequence (pieces : List (Pattern × Bool)) : Pattern :=
  pieces.foldl (fun q p => if q = .empty then p.1 else p.1.andThen q) .empty

/-- The pattern of a group: any of its alternatives. -/
def Group.pattern (g : Group) : Pattern :=
  g.branches.foldl (fun q p => .alt p q) (sequence g.pieces)

/-- A repetition count: digits with blanks around them. -/
def count? (f : Flags) (cs : List Char) : Option (Nat × List Char) :=
  let cs := trimStart (f.next cs)
  let digits := cs.takeWhile Char.isDigit
  let n := digits.foldl (fun n c => n * 10 + (c.toNat - '0'.toNat)) 0
  if digits.isEmpty ∨ Nat.pow 2 32 ≤ n then none
  else some (n, trimStart (cs.drop digits.length))

/-- The bounds in the braces of a repetition, the second none when there is no upper bound. -/
def bounds? (f : Flags) (cs : List Char) : Option (Nat × Option Nat × List Char) := do
  let (least, rest) ← count? f cs
  match rest with
  | '\x7d' :: rest => return (least, some least, rest)
  | ',' :: rest =>
    match f.next rest with
    | '\x7d' :: rest => return (least, none, rest)
    | rest =>
      let (most, rest) ← count? f rest
      match rest with
      | '\x7d' :: rest => if least ≤ most then return (least, some most, rest) else none
      | _ => none
  | _ => none

/-- A repetition mark and what follows it, a mark of laziness included. -/
def repetition? (f : Flags) : List Char → Option (Option (Nat × Option Nat × List Char))
  | '*' :: rest => some (some (0, none, rest))
  | '+' :: rest => some (some (1, none, rest))
  | '?' :: rest => some (some (0, some 1, rest))
  | '\x7b' :: rest => (bounds? f rest).map some
  | _ => some none

/-- The text after a repetition mark without a mark of laziness. -/
def dropLazy : List Char → List Char
  | '?' :: rest => rest
  | cs => cs

/-- Whether a character may stand in the name of a group. -/
def isNameChar (first : Bool) (c : Char) : Bool :=
  c == '_' || (if first then isAlphabetic c
    else isAlphanumeric c || c == '.' || c == '[' || c == ']')

/-- A name up to its closing mark. -/
def groupName? (cs : List Char) : Option (String × List Char) :=
  let (name, rest) := cutBefore (· == '>') cs
  match rest, name with
  | _ :: rest, c :: more =>
    if isNameChar true c && more.all (isNameChar false) then some (String.ofList name, rest)
    else none
  | _, _ => none

/-- What stands after the parenthesis that opens a group. -/
inductive Opening where
  | group (inside : Flags) (name : Option String)
  | settings (inside : Flags)

/-- Reads what follows an opening parenthesis; looking around is not supported. -/
def opening? (f : Flags) (cs : List Char) : Option (Opening × List Char) := do
  match f.next cs with
  | '?' :: 'P' :: '<' :: rest =>
    let (name, rest) ← groupName? rest
    return (.group f (some name), rest)
  | '?' :: '<' :: rest =>
    if rest.head? = some '=' ∨ rest.head? = some '!' then none
    else
      let (name, rest) ← groupName? rest
      return (.group f (some name), rest)
  | '?' :: rest =>
    let (flags, rest) := cutBefore (fun c => c == ':' || c == ')') rest
    let inside ← f.setAll? true [] flags
    match rest with
    | ':' :: rest => return (.group inside none, rest)
    | ')' :: rest => if flags.isEmpty then none else return (.settings inside, rest)
    | _ => none
  | cs => return (.group f none, cs)

/-- Where the reader is: the settings, the open groups with the innermost first, and the names
given to groups. -/
structure ReaderState where
  flags : Flags
  group : Group
  outer : List Group
  names : List String

/-- The state with one more piece. -/
def ReaderState.push (s : ReaderState) (p : Pattern) (repeatable : Bool) : ReaderState :=
  { s with group := { s.group with pieces := (p, repeatable) :: s.group.pieces } }

/-- The set of a point. -/
def dotSet? (f : Flags) : Option CharSet :=
  if !f.unicode then none
  else if f.dotAll then some CharSet.full
  else some (CharSet.complement ⟨if f.returns then [(10, 10), (13, 13)] else [(10, 10)]⟩)

/-- Read a pattern to its end. -/
def readFrom? : Nat → ReaderState → List Char → Option Pattern
  | 0, _, _ => none
  | fuel + 1, s, cs =>
    match s.flags.next cs with
    | [] => if s.outer.isEmpty then some s.group.pattern else none
    | '(' :: rest => do
      match ← opening? s.flags rest with
      | (.settings inside, rest) =>
        readFrom? fuel { s.push .empty false with flags := inside } rest
      | (.group inside name, rest) =>
        let opened : ReaderState :=
          ⟨inside, ⟨s.flags, [], []⟩, s.group :: s.outer, name.toList ++ s.names⟩
        if name.any s.names.contains ∨ 250 ≤ s.outer.length then none
        else readFrom? fuel opened rest
    | ')' :: rest =>
      match s.outer with
      | [] => none
      | g :: outer =>
        let closed : ReaderState := ⟨s.group.outside, g, outer, s.names⟩
        readFrom? fuel (closed.push s.group.pattern true) rest
    | '|' :: rest =>
      let g := s.group
      readFrom? fuel
        { s with group := ⟨g.outside, sequence g.pieces :: g.branches, []⟩ } rest
    | '[' :: rest => do
      let (chars, rest) ← bracketSet? s.flags rest
      readFrom? fuel (s.push (.set chars) true) rest
    | '\\' :: rest => do
      let (piece, rest) ← escape? s.flags rest
      readFrom? fuel (s.push (piece.pattern s.flags) true) rest
    | '.' :: rest => do
      readFrom? fuel (s.push (.set (← dotSet? s.flags)) true) rest
    | '^' :: rest =>
      let a := if s.flags.multiLine then .lineStart s.flags.returns else .textStart
      readFrom? fuel (s.push (.assert a) true) rest
    | '$' :: rest =>
      let a := if s.flags.multiLine then .lineEnd s.flags.returns else .textEnd
      readFrom? fuel (s.push (.assert a) true) rest
    | c :: rest => do
      match ← repetition? s.flags (c :: rest) with
      | some (least, most, rest) =>
        match s.group.pieces with
        | (p, true) :: pieces =>
          let repeated := Pattern.rep p least most
          readFrom? fuel
            { s with group := { s.group with pieces := (repeated, true) :: pieces } }
            (dropLazy rest)
        | _ => none
      | none => readFrom? fuel (s.push ((Piece.literal c).pattern s.flags) true) rest

/-! ## Compiling -/

/-- How much room the pattern takes with its repetitions written out. -/
def room : Pattern → Nat
  | .empty => 1
  | .set s => 1 + s.ranges.length
  | .assert _ => 1
  | .seq p q => p.room + q.room
  | .alt p q => p.room + q.room + 1
  | .rep p least most => p.room * max 1 (most.getD (least + 1)) + 1

/-- Patterns that take more room than this are refused by the standard compiler. -/
def maxRoom : Nat := 200000

end Pattern

namespace Regex

/-- What makes regular expressions of texts. The syntax does not say which texts are too large for
one. -/
class Compiler where
  compile? (source : String) : Option Regex

/-- The regular expression a string writes, unless it takes too much room. -/
def read? (source : String) : Option Regex := do
  let cs := source.toList
  let start : Pattern.ReaderState :=
    ⟨Pattern.Flags.standard, ⟨Pattern.Flags.standard, [], []⟩, [], []⟩
  let p ← Pattern.readFrom? (cs.length + 1) start cs
  if p.room ≤ Pattern.maxRoom then some ⟨source, p⟩ else none

/-- The standard compiler. -/
instance : Compiler :=
  ⟨read?⟩

end Regex

end Mooring
