import Mooring.Text.CharSet

set_option autoImplicit false

/-!
# Regular expressions

The syntax of patterns and what they match. A pattern is matched against a place in a text, which
is seen through the characters on both sides of it. `nullable` says whether a pattern matches the
empty text at a place, `after` lists what is left of a pattern once it has read a character, and
`found` runs both along a text. Patterns are only asked whether they match somewhere, so that no
order among matches is needed.
-/

namespace Mooring.Pattern

/-- A condition on a place. The word conditions are given the set of word characters. -/
inductive Assertion where
  | textStart
  | textEnd
  | lineStart (returns : Bool)
  | lineEnd (returns : Bool)
  | wordBoundary (word : Text.CharSet)
  | noWordBoundary (word : Text.CharSet)
  | wordStart (word : Text.CharSet)
  | wordEnd (word : Text.CharSet)
  | wordStartHalf (word : Text.CharSet)
  | wordEndHalf (word : Text.CharSet)
  deriving DecidableEq, Repr

/-- A place in a text: the characters before and after it. -/
structure Place where
  before : Option Char
  after : Option Char

/-- Whether a word character stands on one side. -/
def isWordSide (word : Text.CharSet) (side : Option Char) : Bool :=
  side.any word.contains

/-- Whether the condition holds at a place. With `returns`, carriage returns end lines too, but
never between a carriage return and its line feed. -/
def Assertion.holdsAt (p : Place) : Assertion → Bool
  | textStart => p.before.isNone
  | textEnd => p.after.isNone
  | lineStart returns =>
    p.before.isNone || p.before == some '\n' ||
      (returns && p.before == some '\r' && p.after != some '\n')
  | lineEnd returns =>
    p.after.isNone || (returns && p.after == some '\r') ||
      (p.after == some '\n' && !(returns && p.before == some '\r'))
  | wordBoundary w => isWordSide w p.before != isWordSide w p.after
  | noWordBoundary w => isWordSide w p.before == isWordSide w p.after
  | wordStart w => !isWordSide w p.before && isWordSide w p.after
  | wordEnd w => isWordSide w p.before && !isWordSide w p.after
  | wordStartHalf w => !isWordSide w p.before
  | wordEndHalf w => !isWordSide w p.after

end Pattern

/-- A regular expression. -/
inductive Pattern where
  | empty
  | set (s : Text.CharSet)
  | assert (a : Pattern.Assertion)
  | seq (p q : Pattern)
  | alt (p q : Pattern)
  | rep (p : Pattern) (least : Nat) (most : Option Nat)
  deriving DecidableEq, Repr

namespace Pattern

/-- Whether the pattern matches the empty text at a place. -/
def nullable (place : Place) : Pattern → Bool
  | empty => true
  | set _ => false
  | assert a => a.holdsAt place
  | seq p q => nullable place p && nullable place q
  | alt p q => nullable place p || nullable place q
  | rep p least _ => least == 0 || nullable place p

/-- A pattern followed by another one, where the empty pattern needs no place. -/
def andThen : Pattern → Pattern → Pattern
  | empty, q => q
  | p, q => seq p q

/-- What is left of a repetition once one round has begun: where a round may be empty, any number
of those owed may be. -/
def remaining (p : Pattern) (least : Nat) (most : Option Nat) (skips : Bool) : Pattern :=
  match most with
  | some 0 => empty
  | some (n + 1) =>
    if n = 0 then empty else rep p (if skips then 0 else least - 1) (some n)
  | none => rep p (if skips then 0 else least - 1) none

/-- The patterns one of which has to match the rest of a text, once the character `c` after the
place has been read. -/
def after (place : Place) (c : Char) : Pattern → List Pattern
  | empty => []
  | set s => if s.contains c then [empty] else []
  | assert _ => []
  | seq p q =>
    (after place c p).map (fun r => r.andThen q) ++
      if nullable place p then after place c q else []
  | alt p q => after place c p ++ after place c q
  | rep p least most =>
    if most = some 0 then []
    else (after place c p).map fun r => r.andThen (remaining p least most (nullable place p))

/-- A list without the patterns that occur again further on. -/
def distinct : List Pattern → List Pattern
  | [] => []
  | p :: ps => let rest := distinct ps; if rest.contains p then rest else p :: rest

/-- Whether a match that started with one of the `live` patterns, or a match of `p` that starts
here or later, is completed in the text. -/
def foundFrom (p : Pattern) : Option Char → List Pattern → List Char → Bool
  | before, live, [] => (p :: live).any (nullable ⟨before, none⟩)
  | before, live, c :: cs =>
    let place : Place := ⟨before, some c⟩
    let here := p :: live
    here.any (nullable place) ||
      foundFrom p (some c) (distinct (here.flatMap (after place c))) cs

/-- Whether the pattern matches somewhere in the text. -/
def found (p : Pattern) (text : List Char) : Bool :=
  foundFrom p none [] text

end Pattern

/-- A pattern with the text it was read from. -/
structure Regex where
  source : String
  pattern : Pattern
  deriving DecidableEq, Repr

/-- Whether the expression matches somewhere in a string. -/
def Regex.isMatch (r : Regex) (s : String) : Bool :=
  r.pattern.found s.toList

end Mooring
