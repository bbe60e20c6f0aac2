import Mooring.Path.Comparing

set_option autoImplicit false

/-!
# What paths select

Evaluation of paths and conditions. A path keeps a list of nodes and replaces each by what the
next segment finds in it, so that selecting by a longer path is selecting again from what its
first part selected.
-/

namespace Mooring.Path

/-! ## Descendants -/

mutual

/-- The members of the given name of a document and of everything inside it, an object before the
objects nested in it. -/
def descendants (name : String) : Json → List Json
  | .obj members => (members.lookup name).toList ++ descendantsOfMembers name members
  | .arr items => descendantsOfItems name items
  | _ => []
termination_by structural v => v

/-- The descendants of the items of an array. -/
def descendantsOfItems (name : String) : List Json → List Json
  | [] => []
  | x :: xs => descendants name x ++ descendantsOfItems name xs
termination_by structural xs => xs

/-- The descendants of the value of a member. -/
def descendantsOfMember (name : String) : String × Json → List Json
  | (_, v) => descendants name v
termination_by structural m => m

/-- The descendants of the members of an object. -/
def descendantsOfMembers (name : String) : List (String × Json) → List Json
  | [] => []
  | m :: ms => descendantsOfMember name m ++ descendantsOfMembers name ms
termination_by structural ms => ms

end

/-! ## Segments and conditions -/

/-- The item at an index; a negative index counts from the end. -/
def itemAt? (items : List Json) (i : Int) : Option Json :=
  let at' := if i < 0 then (items.length : Int) + i else i
  if at' < 0 then none else items[at'.toNat]?

/-- The value of what a path selects, as an operand: nothing, the one node, or a list. -/
def operandValue? : List Json → Option Json
  | [] => none
  | [v] => some v
  | vs => some (.arr vs)

/-- Where a path starts, given the current item and the document. -/
def Root.start (root : Root) (current document : Json) : Json :=
  match root with
  | .document => document
  | .current => current

/-- Whether an operator holds between operands that have values. -/
def holdsBetween (op : Comparison) (pattern : Option Regex) (left right : Option Json) : Bool :=
  match left with
  | none => false
  | some a =>
    if op = .like then
      match matchText? a, pattern with
      | some text, some r => r.isMatch text
      | _, _ => false
    else right.any (op.holds a)

/-- The regular expression of an operand, if it is one. -/
def Operand.regex? : Operand → Option Regex
  | .regex r => some r
  | .path _ _ => none
  | .literal _ => none

mutual

/-- What a segment finds in a node. -/
def Segment.find (document : Json) : Segment → Json → List Json
  | .child name, node => (node.member? name).toList
  | .descendant name, node => descendants name node
  | .wildcard, .obj members => members.map Prod.snd
  | .wildcard, .arr items => items
  | .wildcard, _ => []
  | .index i, .arr items => (itemAt? items i).toList
  | .index _, _ => []
  | .filter c, .arr items => items.filter fun item => c.holds item document
  | .filter c, .obj members => if c.holds (.obj members) document then [.obj members] else []
  | .filter _, _ => []
termination_by structural s => s

/-- The nodes that segments lead to from the given ones. -/
def selectFrom (document : Json) : List Segment → List Json → List Json
  | [], nodes => nodes
  | s :: rest, nodes => selectFrom document rest (nodes.flatMap fun n => s.find document n)
termination_by structural segments => segments

/-- Whether an item satisfies a condition. -/
def Condition.holds : Condition → (current document : Json) → Bool
  | .or a b, current, document => a.holds current document || b.holds current document
  | .and a b, current, document => a.holds current document && b.holds current document
  | .not a, current, document => !a.holds current document
  | .compare left op right, current, document =>
    holdsBetween op right.regex? (left.value? current document) (right.value? current document)
  | .selects root segments, current, document =>
    !(selectFrom document segments [root.start current document]).isEmpty
termination_by structural c => c

/-- The value of an operand; a regular expression stands for its text. -/
def Operand.value? : Operand → (current document : Json) → Option Json
  | .path root segments, current, document =>
    operandValue? (selectFrom document segments [root.start current document])
  | .literal v, _, _ => some v
  | .regex r, _, _ => some (.str r.source)
termination_by structural o => o

end

/-- Selecting by segments is selecting by the last ones from what the first ones select. -/
theorem selectFrom_append (document : Json) (s t : List Segment) (nodes : List Json) :
    selectFrom document (s ++ t) nodes = selectFrom document t (selectFrom document s nodes) := by
  induction s generalizing nodes with
  | nil => rw [List.nil_append, selectFrom]
  | cons a rest ih => rw [List.cons_append, selectFrom, selectFrom, ih]

end Path

/-- The values a path selects from a document. -/
def Path.select (p : Path) (document : Json) : List Json :=
  Path.selectFrom document p.segments [p.root.start document document]

namespace Filter

/-- Whether an item satisfies the filter, as the current item and as the document. -/
def accepts (f : Filter) (item : Json) : Bool :=
  f.condition.holds item item

/-- The candidates that satisfy the filter. -/
def retain (f : Filter) (candidates : List Json) : List Json :=
  candidates.filter f.accepts

/-- The filter for items whose member `field` equals a text. -/
def fieldEquals (field value : String) : Filter :=
  ⟨"@." ++ field ++ " == '" ++ value ++ "'",
    .compare (.path .current [.child field]) .eq (.literal (.str value))⟩

/-- The filter for items that satisfy either of two. -/
def or (a b : Filter) : Filter :=
  ⟨"(" ++ a.source ++ ") || (" ++ b.source ++ ")", .or a.condition b.condition⟩

/-- The filter for items that satisfy both of two. -/
def and (a b : Filter) : Filter :=
  ⟨"(" ++ a.source ++ ") && (" ++ b.source ++ ")", .and a.condition b.condition⟩

/-- An item satisfies the union of two filters when it satisfies one of them. -/
theorem accepts_or (a b : Filter) (item : Json) :
    (a.or b).accepts item = (a.accepts item || b.accepts item) := by
  simp [accepts, or, Path.Condition.holds]

/-- An item satisfies the meet of two filters when it satisfies both. -/
theorem accepts_and (a b : Filter) (item : Json) :
    (a.and b).accepts item = (a.accepts item && b.accepts item) := by
  simp [accepts, and, Path.Condition.holds]

end Filter

end Mooring
