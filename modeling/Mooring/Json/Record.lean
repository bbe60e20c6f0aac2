import Mooring.Json.Basic

set_option autoImplicit false

/-!
# Structures as JSON

How a structure stands in a document. It is written as an object, absent optional fields left out
or null. It is read from an object by name, unknown names ignored and a known one at most once, or
from an array by place.
-/

namespace Mooring

/-! ## Reading simple values -/

namespace Json

/-- The truth value of a boolean. -/
def asBool? : Json → Option Bool
  | .bool b => some b
  | _ => none

/-- Any number as a double. -/
def asDouble? : Json → Option Double
  | .num n => some n.toDouble
  | _ => none

/-- The items of an array, each read by `decode`. -/
def asList? {α : Type} (decode : Json → Option α) : Json → Option (List α)
  | .arr items => items.mapM decode
  | _ => none

/-- A null, or a value read by `decode`. -/
def asOption? {α : Type} (decode : Json → Option α) : Json → Option (Option α)
  | .null => some none
  | v => (decode v).map some

/-- An object whose members are strings. -/
def asStringMap? : Json → Option (OrderedMap String)
  | .obj members => do
    let pairs ← members.mapM fun (name, v) => do return (name, ← asString? v)
    return OrderedMap.ofPairs pairs
  | _ => none

/-- One of the named values: its name, or an object whose one member has that name and a null. -/
def asNamed? {α : Type} (names : List (String × α)) : Json → Option α
  | .str s => names.lookup s
  | .obj [(s, .null)] => names.lookup s
  | _ => none

/-! ## Writing -/

/-- An optional value, null when absent. -/
def ofOption {α : Type} (encode : α → Json) : Option α → Json
  | some v => encode v
  | none => .null

/-- A map of strings as an object. -/
def ofStringMap (m : OrderedMap String) : Json :=
  .obj (m.entries.map fun e => (e.1, .str e.2))

/-- A list of values as an array. -/
def ofList {α : Type} (encode : α → Json) (xs : List α) : Json :=
  .arr (xs.map encode)

/-- An integer. -/
def ofInt (n : Int) : Json :=
  .num (.int n)

/-- The member of a field that is left out when absent. -/
def optionalField {α : Type} (name : String) (encode : α → Json) :
    Option α → List (String × Json)
  | some v => [(name, encode v)]
  | none => []

end Json

/-! ## Reading structures -/

/-- The fields of a structure as they stand in a document, an absent field without a cell. -/
structure Record where
  positional : Bool
  cells : List (String × Option Json)

namespace Record

/-- The cell of one field of an object; a field that stands there twice is an error. -/
def cellOf? (members : List (String × Json)) (name : String) : Option (Option Json) :=
  match members.filter (fun m => m.1 == name) with
  | [] => some none
  | [m] => some (some m.2)
  | _ => none

/-- The cells of the named fields of an object. -/
def cellsOf? (members : List (String × Json)) : List String → Option (List (String × Option Json))
  | [] => some []
  | name :: names => do return (name, ← cellOf? members name) :: (← cellsOf? members names)

/-- The cells of an array: fields beyond its end are absent, items beyond the fields an error. -/
def cellsAt? : List Json → List String → Option (List (String × Option Json))
  | [], names => some (names.map fun n => (n, none))
  | _ :: _, [] => none
  | x :: xs, n :: names => (cellsAt? xs names).map ((n, some x) :: ·)

/-- The fields of a structure with the given field names. -/
def ofJson? (names : List String) : Json → Option Record
  | .obj members => (cellsOf? members names).map (⟨false, ·⟩)
  | .arr items => (cellsAt? items names).map (⟨true, ·⟩)
  | _ => none

/-- What stands in the cell of a field. -/
def cell? (r : Record) (name : String) : Option Json :=
  (r.cells.lookup name).join

/-- A field that has to be there. -/
def need {α : Type} (r : Record) (name : String) (decode : Json → Option α) : Option α :=
  r.cell? name >>= decode

/-- A field that stands for `default` when it is absent. -/
def orElse {α : Type} (r : Record) (name : String) (default : α) (decode : Json → Option α) :
    Option α :=
  match r.cell? name with
  | some v => decode v
  | none => some default

/-- An optional field of a structure without defaults: an object may leave it out, an array may
not. -/
def optional {α : Type} (r : Record) (name : String) (decode : Json → Option α) :
    Option (Option α) :=
  match r.cell? name with
  | some v => v.asOption? decode
  | none => if r.positional then none else some none

/-- An optional field of a structure whose fields all have defaults. -/
def option {α : Type} (r : Record) (name : String) (decode : Json → Option α) :
    Option (Option α) :=
  r.orElse name none (Json.asOption? decode)

end Record

end Mooring
