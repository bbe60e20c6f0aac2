import Mooring.Double.Basic
import Mooring.OrderedMap

set_option autoImplicit false

/-!
# TOML documents

Values, and how a document grows from its lines. A table is defined once: by its header, by dotted
keys, or inline; a table that only stands above a header may still get a header of its own.
-/

namespace Mooring

/-- How a table came to be. -/
inductive TomlTableKind where
  | header
  | above
  | dotted
  | inline
  deriving DecidableEq, Repr

/-- A TOML value. -/
inductive Toml where
  | string (s : String)
  | integer (n : Int)
  | float (d : Double)
  | boolean (b : Bool)
  | dateTime (text : String)
  | array (items : List Toml)
  | table (kind : TomlTableKind) (members : List (String × Toml))
  | tables (items : List (List (String × Toml)))

namespace Toml

/-- The members of a table. -/
abbrev Members : Type :=
  List (String × Toml)

/-- Change the members of the table that a path leads to. Tables on the way are made where they are
missing. Dotted keys do not enter a table that has a header, and nothing enters an inline table. -/
def alter (dotted : Bool) (act : TomlTableKind → Members → Option Members) :
    List String → TomlTableKind → Members → Option Members
  | [], kind, ms => act kind ms
  | k :: rest, _, ms =>
    match ms.lookup k with
    | none => do
      let kind := if dotted then TomlTableKind.dotted else .above
      return ms ++ [(k, .table kind (← alter dotted act rest kind []))]
    | some (.table kind inner) =>
      if kind = .inline ∨ (dotted = true ∧ kind = .header) then none
      else do
        return setPair k (.table kind (← alter dotted act rest kind inner)) ms
    | some (.tables items) => do
      let last ← alter dotted act rest .header (items.getLastD [])
      return setPair k (.tables (items.dropLast ++ [last])) ms
    | some _ => none

/-- Define a key of a table. -/
def define (path : List String) (key : String) (v : Toml) :
    TomlTableKind → Members → Option Members :=
  alter true (fun kind ms =>
    if (kind == .dotted) == path.isEmpty || (ms.lookup key).isSome then none
    else some (ms ++ [(key, v)])) path

/-- Open the table of a header. -/
def openTable (path : List String) (key : String) : Members → Option Members :=
  alter false (fun _ ms =>
    match ms.lookup key with
    | none => some (ms ++ [(key, .table .header [])])
    | some (.table .above inner) => some (setPair key (.table .header inner) ms)
    | some _ => none) path .header

/-- Open one more table of an array of tables. -/
def openNext (path : List String) (key : String) : Members → Option Members :=
  alter false (fun _ ms =>
    match ms.lookup key with
    | none => some (ms ++ [(key, .tables [[]])])
    | some (.tables items) => some (setPair key (.tables (items ++ [[]])) ms)
    | some _ => none) path .header

/-- Define a key of the table that is open. -/
def defineIn (current path : List String) (key : String) (v : Toml) : Members → Option Members :=
  alter false (define path key v) current .header

end Toml

end Mooring
