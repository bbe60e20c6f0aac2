import Mooring.Path.Scanning
import Mooring.Pattern.Reader
import Mooring.Text.Whole

set_option autoImplicit false

/-!
# Reading paths and filters

A path is read from its steps, a filter from its tokens. Filters follow the grammar

    or      := and { '||' and }
    and     := unary { '&&' unary }
    unary   := '!' unary | '(' or ')' | operand [ operator operand ]
    operand := path | text | number | boolean | null | regex | '[' [ literal { ',' literal } ] ']'

with both chains grouped to the left. Each function of the grammar returns the tokens that follow
together with a proof that they are fewer. Paths and filters nest, each inside a shorter text; how
deep they may nest is bounded by the length of the whole text. Regular expressions are made by
whatever compiler there is (`Regex.Compiler`).
-/

namespace Mooring

namespace Path

/-- The start and the segments of a path. -/
abbrev Route : Type :=
  Root × List Segment

/-- What reads the text of a path. -/
abbrev RouteReader : Type :=
  List Char → Except PathError Route

/-! ## Operands -/

/-- The literal of a number: an integer when it is one of the signed 64-bit range. -/
def numberLiteral (d : Double) : Json :=
  match d.toInt? with
  | some n => if n.natAbs < Nat.pow 2 63 then .num (.int n) else .num (.double d)
  | none => if d.isFinite then .num (.double d) else .null

/-- A value read from the front of a list of tokens, and the fewer tokens that follow it. -/
abbrev Parsed (α : Type) (ts : List Token) : Type :=
  Except PathError (α × { rest : List Token // rest.length < ts.length })

variable [Regex.Compiler]

/-- The regular expression a text writes. -/
def compile (pattern : String) : Except PathError Operand :=
  match Regex.Compiler.compile? pattern with
  | some r => .ok (.regex r)
  | none => .error .invalidRegex

mutual

/-- An operand at the front of the tokens. -/
def operand (routeOf : RouteReader) (ts : List Token) : Parsed Operand ts :=
  match ts with
  | [] => .error .unexpectedEnd
  | .path text :: rest => do
    let (root, segments) ← routeOf text
    return (.path root segments, ⟨rest, by simp⟩)
  | .text s :: rest => .ok (.literal (.str s), ⟨rest, by simp⟩)
  | .number d :: rest => .ok (.literal (numberLiteral d), ⟨rest, by simp⟩)
  | .bool b :: rest => .ok (.literal (.bool b), ⟨rest, by simp⟩)
  | .null :: rest => .ok (.literal .null, ⟨rest, by simp⟩)
  | .regex pattern :: rest => do
    let r ← compile pattern
    return (r, ⟨rest, by simp⟩)
  | .openBracket :: .closeBracket :: rest =>
    .ok (.literal (.arr []), ⟨rest, by simp only [List.length_cons]; omega⟩)
  | .openBracket :: rest => do
    let (items, ⟨after, h⟩) ← literals routeOf rest
    return (.literal (.arr items), ⟨after, by simp only [List.length_cons]; omega⟩)
  | t :: _ => .error (.unexpectedToken t)
termination_by (ts.length, 0)

/-- The literals of a list that is already open, up to its closing bracket. -/
def literals (routeOf : RouteReader) (ts : List Token) : Parsed (List Json) ts := do
  match ← operand routeOf ts with
  | (.literal v, ⟨.closeBracket :: rest, h⟩) =>
    return ([v], ⟨rest, by simp only [List.length_cons] at h; omega⟩)
  | (.literal v, ⟨.comma :: rest, h⟩) =>
    let (items, ⟨after, h'⟩) ← literals routeOf rest
    return (v :: items, ⟨after, by simp only [List.length_cons] at h; omega⟩)
  | (.literal _, _) => throw .listSeparator
  | _ => throw .onlyLiterals
termination_by (ts.length, 1)
decreasing_by
  · exact Prod.Lex.right _ (by decide)
  · apply Prod.Lex.left; simp only [List.length_cons] at h; omega

end

/-! ## Conditions -/

/-- The right side of a comparison: matching wants a regular expression, written as such or as a
text. -/
def rightSide (op : Comparison) (right : Operand) : Except PathError Operand :=
  match op, right with
  | .like, .regex r => .ok (.regex r)
  | .like, .literal (.str pattern) => compile pattern
  | .like, _ => .error .regexNeeded
  | _, o => .ok o

/-- A comparison, or a path that has to select something. -/
def comparison (routeOf : RouteReader) (ts : List Token) : Parsed Condition ts := do
  match ← operand routeOf ts with
  | (left, ⟨.op c :: rest, h⟩) =>
    let (right, ⟨after, h'⟩) ← operand routeOf rest
    let right ← rightSide c right
    return (.compare left c right, ⟨after, by simp only [List.length_cons] at h; omega⟩)
  | (.path root segments, ⟨rest, h⟩) => return (.selects root segments, ⟨rest, h⟩)
  | (other, _) => throw (.expectedComparison other)

mutual

/-- A negation, a condition in parentheses, or a comparison. -/
def unary (routeOf : RouteReader) (ts : List Token) : Parsed Condition ts :=
  match ts with
  | .not :: rest => do
    let (a, ⟨after, h⟩) ← unary routeOf rest
    return (.not a, ⟨after, by simp only [List.length_cons]; omega⟩)
  | .openParen :: rest => do
    match ← disjunction routeOf rest with
    | (a, ⟨.closeParen :: after, h⟩) =>
      return (a, ⟨after, by simp only [List.length_cons] at h ⊢; omega⟩)
    | _ => throw .missingParen
  | ts => comparison routeOf ts
termination_by (ts.length, 0)

/-- A chain of conditions that all have to hold. -/
def conjunction (routeOf : RouteReader) (ts : List Token) : Parsed Condition ts := do
  let (left, ⟨rest, h⟩) ← unary routeOf ts
  let (a, ⟨after, h'⟩) ← moreConjuncts routeOf left rest
  return (a, ⟨after, by omega⟩)
termination_by (ts.length, 1)

/-- What follows the first condition of a conjunction. -/
def moreConjuncts (routeOf : RouteReader) (left : Condition) (ts : List Token) :
    Except PathError (Condition × { rest : List Token // rest.length ≤ ts.length }) :=
  match ts with
  | .and :: rest => do
    let (right, ⟨after, h⟩) ← unary routeOf rest
    let (a, ⟨last, h'⟩) ← moreConjuncts routeOf (.and left right) after
    return (a, ⟨last, by simp only [List.length_cons]; omega⟩)
  | ts => .ok (left, ⟨ts, Nat.le_refl _⟩)
termination_by (ts.length, 0)

/-- A chain of conditions of which one has to hold. -/
def disjunction (routeOf : RouteReader) (ts : List Token) : Parsed Condition ts := do
  let (left, ⟨rest, h⟩) ← conjunction routeOf ts
  let (a, ⟨after, h'⟩) ← moreDisjuncts routeOf left rest
  return (a, ⟨after, by omega⟩)
termination_by (ts.length, 2)

/-- What follows the first condition of a disjunction. -/
def moreDisjuncts (routeOf : RouteReader) (left : Condition) (ts : List Token) :
    Except PathError (Condition × { rest : List Token // rest.length ≤ ts.length }) :=
  match ts with
  | .or :: rest => do
    let (right, ⟨after, h⟩) ← conjunction routeOf rest
    let (a, ⟨last, h'⟩) ← moreDisjuncts routeOf (.or left right) after
    return (a, ⟨last, by simp only [List.length_cons]; omega⟩)
  | ts => .ok (left, ⟨ts, Nat.le_refl _⟩)
termination_by (ts.length, 0)

end

/-- The condition that tokens write, all of them. -/
def conditionOf (routeOf : RouteReader) (ts : List Token) : Except PathError Condition := do
  if ts.isEmpty then throw .emptyFilter
  match ← disjunction routeOf ts with
  | (c, ⟨[], _⟩) => return c
  | (_, ⟨t :: _, _⟩) => throw (.trailing t)

/-- The condition a text writes. -/
def conditionOfText (routeOf : RouteReader) (cs : List Char) : Except PathError Condition := do
  conditionOf routeOf (← tokens cs.length cs)

/-! ## Segments -/

/-- The name in a quoted selector. -/
def quotedName? (cs : List Char) : Option (List Char) :=
  match cs with
  | q :: rest => if isQuote q && rest.getLast? == some q then some rest.dropLast else none
  | [] => none

/-- The text between the parentheses of a filter selector. -/
def filterBody? (cs : List Char) : Option (List Char) :=
  match Text.trim cs with
  | '(' :: rest => if rest.getLast? = some ')' then some rest.dropLast else none
  | _ => none

/-- The segment a trimmed selector in brackets writes. -/
def selectorSegment (routeOf : RouteReader) (selector : List Char) : Except PathError Segment :=
  match selector with
  | ['*'] => .ok .wildcard
  | '?' :: rest =>
    match filterBody? rest with
    | some body => return .filter (← conditionOfText routeOf body)
    | none => throw (.filterForm selector)
  | _ =>
    match quotedName? selector with
    | some name => .ok (.child (String.ofList name))
    | none =>
      match Text.signedNumber? selector with
      | some i => .ok (.index i)
      | none => .error (.unsupportedSelector selector)

/-- The segment of a step. -/
def Step.segment (routeOf : RouteReader) : Step → Except PathError Segment
  | .child name => .ok (.child (String.ofList name))
  | .descendant name => .ok (.descendant (String.ofList name))
  | .wildcard => .ok .wildcard
  | .bracket selector => selectorSegment routeOf (Text.trim selector)

/-- The segments a text writes; of two errors the one further left wins. -/
def segmentsOf (routeOf : RouteReader) (total : Nat) (cs : List Char) :
    Except PathError (List Segment) := do
  let (found, error) := steps total cs
  let segments ← found.mapM (Step.segment routeOf)
  match error with
  | some e => throw e
  | none => return segments

/-! ## Paths -/

/-- The path a text without blanks around it writes. A text that starts with a name starts at the
document with that child. -/
def routeOfTrimmed (routeOf : RouteReader) (cs : List Char) : Except PathError Route :=
  match cs with
  | [] => .error .empty
  | '$' :: rest => return (.document, ← segmentsOf routeOf cs.length rest)
  | '@' :: rest => return (.current, ← segmentsOf routeOf cs.length rest)
  | c :: _ =>
    let name := cs.takeWhile isNamePart
    if name.isEmpty then .error (.unexpectedChar c 0)
    else do
      let segments ← segmentsOf routeOf cs.length (cs.dropWhile isNamePart)
      return (.document, .child (String.ofList name) :: segments)

/-- The path a text writes, with at most `depth` texts nested in each other. -/
def routeWithin : Nat → RouteReader
  | 0, _ => .error .empty
  | depth + 1, cs => routeOfTrimmed (routeWithin depth) (Text.trim cs)

/-- The path a text writes. Every nested text is shorter, so its length bounds the nesting. -/
def route (cs : List Char) : Except PathError Route :=
  routeWithin (cs.length + 1) cs

/-- The condition a text writes. -/
def condition (cs : List Char) : Except PathError Condition :=
  conditionOfText (routeWithin (cs.length + 1)) cs

/-- The path expression a string writes. -/
def read (source : String) : Except PathError Path := do
  let (root, segments) ← route source.toList
  return ⟨source, root, segments⟩

end Path

/-- The filter a string writes. -/
def Filter.read [Regex.Compiler] (source : String) : Except Path.PathError Filter := do
  return ⟨source, ← Path.condition source.toList⟩

end Mooring
