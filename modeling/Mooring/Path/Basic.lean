import Mooring.Json.Basic
import Mooring.Pattern.Basic

set_option autoImplicit false

/-!
# Path expressions and filters

A path selects nodes of a document: it starts at the document or at the current item and takes one
segment after another. A filter is a condition on an item, and paths and filters nest in each
other: a segment may be a filter, and a filter compares what paths select.
-/

namespace Mooring

namespace Path

/-- Where a path starts. -/
inductive Root where
  | document
  | current
  deriving DecidableEq, Repr

/-- How a filter compares two operands. -/
inductive Comparison where
  | eq
  | ne
  | lt
  | le
  | gt
  | ge
  | isIn
  | notIn
  | like
  deriving DecidableEq, Repr

mutual

/-- One step of a path. -/
inductive Segment where
  | child (name : String)
  | descendant (name : String)
  | wildcard
  | index (i : Int)
  | filter (condition : Condition)

/-- A condition on an item. -/
inductive Condition where
  | or (a b : Condition)
  | and (a b : Condition)
  | not (a : Condition)
  | compare (left : Operand) (op : Comparison) (right : Operand)
  | selects (root : Root) (segments : List Segment)

/-- What a condition compares: what a path selects, a literal, or a regular expression. -/
inductive Operand where
  | path (root : Root) (segments : List Segment)
  | literal (v : Json)
  | regex (r : Regex)

end

end Path

/-- A path expression with its text. -/
structure Path where
  source : String
  root : Path.Root
  segments : List Path.Segment

/-- A filter with its text. -/
structure Filter where
  source : String
  condition : Path.Condition

end Mooring
