import Mooring.Path.Reader

set_option autoImplicit false

/-!
# The grammar of filters

A condition is a disjunction of conjunctions of negations, comparisons and conditions in
parentheses; a comparison stands between operands, and a path may stand alone. `Derives` says which
tokens write which condition, given which texts write which routes; the tree of the condition is
that of the derivation, and both chains are grouped to the left.

A derivation depends on the routes of the paths among its tokens alone (`Derives.mono`).
-/

namespace Mooring.Path

/-! ## Derivations -/

/-- Tokens that write a literal, and its value. A list holds literals with commas between them. -/
inductive IsLiteral : List Token → Json → Prop where
  | text (s : String) : IsLiteral [.text s] (.str s)
  | number (d : Double) : IsLiteral [.number d] (numberLiteral d)
  | bool (b : Bool) : IsLiteral [.bool b] (.bool b)
  | null : IsLiteral [.null] .null
  | list (items : List (List Token × Json)) (h : ∀ i ∈ items, IsLiteral i.1 i.2) :
      IsLiteral (.openBracket :: [Token.comma].intercalate (items.map Prod.fst) ++ [.closeBracket])
        (.arr (items.map Prod.snd))

/-- Which routes the texts of paths write. -/
abbrev RouteRelation : Type :=
  List Char → Route → Prop

section Derivations

variable [Regex.Compiler] (routes : RouteRelation)

/-- Tokens that write an operand. -/
inductive IsOperand : List Token → Operand → Prop where
  | path {text : List Char} {root : Root} {segments : List Segment}
      (h : routes text (root, segments)) : IsOperand [.path text] (.path root segments)
  | literal {ts : List Token} {v : Json} (h : IsLiteral ts v) : IsOperand ts (.literal v)
  | regex {pattern : String} {r : Regex} (h : Regex.Compiler.compile? pattern = some r) :
      IsOperand [.regex pattern] (.regex r)

/-- Tokens that write the right side of a comparison: matching wants a regular expression, written
as such or as a text. -/
inductive IsRightSide : Comparison → List Token → Operand → Prop where
  | plain {op : Comparison} {ts : List Token} {o : Operand} (hop : op ≠ .like)
      (h : IsOperand routes ts o) : IsRightSide op ts o
  | regex {pattern : String} {r : Regex} (h : Regex.Compiler.compile? pattern = some r) :
      IsRightSide .like [.regex pattern] (.regex r)
  | text {pattern : String} {r : Regex} (h : Regex.Compiler.compile? pattern = some r) :
      IsRightSide .like [.text pattern] (.regex r)

/-- The levels of the grammar, from the one that binds tightest. -/
inductive Level where
  | unary
  | conjunction
  | disjunction

/-- Tokens that write a condition of a level. Both chains are grouped to the left. -/
inductive Derives : Level → List Token → Condition → Prop where
  | not {ts : List Token} {a : Condition} (h : Derives .unary ts a) :
      Derives .unary (.not :: ts) (.not a)
  | group {ts : List Token} {a : Condition} (h : Derives .disjunction ts a) :
      Derives .unary (.openParen :: ts ++ [.closeParen]) a
  | compare {ts us : List Token} {left right : Operand} {op : Comparison}
      (hl : IsOperand routes ts left) (hr : IsRightSide routes op us right) :
      Derives .unary (ts ++ .op op :: us) (.compare left op right)
  | selects {text : List Char} {root : Root} {segments : List Segment}
      (h : routes text (root, segments)) : Derives .unary [.path text] (.selects root segments)
  | conjunct {ts : List Token} {a : Condition} (h : Derives .unary ts a) :
      Derives .conjunction ts a
  | and {ts us : List Token} {a b : Condition} (ha : Derives .conjunction ts a)
      (hb : Derives .unary us b) : Derives .conjunction (ts ++ .and :: us) (.and a b)
  | disjunct {ts : List Token} {a : Condition} (h : Derives .conjunction ts a) :
      Derives .disjunction ts a
  | or {ts us : List Token} {a b : Condition} (ha : Derives .disjunction ts a)
      (hb : Derives .conjunction us b) : Derives .disjunction (ts ++ .or :: us) (.or a b)

end Derivations

/-! ## The routes a derivation depends on -/

/-- The routes that a reader reads. -/
def RouteReader.routes (routeOf : RouteReader) : RouteRelation :=
  fun text r => routeOf text = .ok r

section Monotone

variable [Regex.Compiler] {routes routes' : RouteRelation} {ts : List Token}
  (hroutes : ∀ text, .path text ∈ ts → ∀ r, routes text r → routes' text r)
include hroutes

theorem IsOperand.mono {o : Operand} (h : IsOperand routes ts o) : IsOperand routes' ts o := by
  cases h with
  | path h => exact .path (hroutes _ List.mem_cons_self _ h)
  | literal h => exact .literal h
  | regex h => exact .regex h

theorem IsRightSide.mono {op : Comparison} {o : Operand} (h : IsRightSide routes op ts o) :
    IsRightSide routes' op ts o := by
  cases h with
  | plain hop h => exact .plain hop (h.mono hroutes)
  | regex h => exact .regex h
  | text h => exact .text h

/-- A derivation is one for any relation that gives the paths among its tokens the same routes. -/
theorem Derives.mono {level : Level} {a : Condition} (h : Derives routes level ts a) :
    Derives routes' level ts a := by
  induction h with
  | not h ih => exact .not (ih fun text ht => hroutes text (by simp [ht]))
  | group h ih => exact .group (ih fun text ht => hroutes text (by simp [ht]))
  | compare hl hr =>
    exact .compare (hl.mono fun text ht => hroutes text (by simp [ht]))
      (hr.mono fun text ht => hroutes text (by simp [ht]))
  | selects h => exact .selects (hroutes _ List.mem_cons_self _ h)
  | conjunct h ih => exact .conjunct (ih hroutes)
  | and ha hb iha ihb =>
    exact .and (iha fun text ht => hroutes text (by simp [ht]))
      (ihb fun text ht => hroutes text (by simp [ht]))
  | disjunct h ih => exact .disjunct (ih hroutes)
  | or ha hb iha ihb =>
    exact .or (iha fun text ht => hroutes text (by simp [ht]))
      (ihb fun text ht => hroutes text (by simp [ht]))

end Monotone

end Mooring.Path
