import Mooring.Path.Reader
import Mooring.Path.Selection
import Mooring.Resolution.Error

set_option autoImplicit false

/-!
# Templates

Two forms of placeholder. A token, by convention `#NAME#`, is replaced by its value wherever it
stands; tokens are taken in the order of the values, so that a value may hold a later token. A path
between carets is replaced by what it selects from a document. A report lists the tokens that were
replaced, each once, and never a value.
-/

namespace Mooring

variable [Regex.Compiler]

/-! ## Expressions with their errors -/

/-- The path a string writes. -/
def Path.parse (source : String) : Except ResolutionError Path :=
  (Path.read source).mapError (.invalidPath source)

/-- The filter a string writes. -/
def Filter.parse (source : String) : Except ResolutionError Filter :=
  (Filter.read source).mapError (.invalidPath source)

namespace Template

/-! ## Tokens -/

/-- Add a token to a report that does not list it yet. -/
def record (report : List String) (token : String) : List String :=
  if report.contains token then report else report ++ [token]

/-- Replace one token in the text and note it in the report, if it stands there. -/
def fill (state : List Char × List String) (entry : String × String) : List Char × List String :=
  let (text, report) := state
  let (token, value) := entry
  if token.isEmpty || !Text.occursIn token.toList text then state
  else (Text.replaceAll token.toList value.toList text, record report token)

/-- The template with its tokens replaced, and the report of them. -/
def substitute (values : OrderedMap String) (template : String) (report : List String) :
    String × List String :=
  let (text, report) := values.entries.foldl fill (template.toList, report)
  (String.ofList text, report)

/-- The templates of a map with their tokens replaced, those of its keys too if `keys` is set. -/
def substituteEntries (values : OrderedMap String) (keys : Bool) :
    List (String × String) → List String → List (String × String) × List String
  | [], report => ([], report)
  | (key, template) :: rest, report =>
    let (key, report) := if keys then substitute values key report else (key, report)
    let (text, report) := substitute values template report
    let (rest, report) := substituteEntries values keys rest report
    ((key, text) :: rest, report)

/-- The map of filled templates; of two keys that become equal the last has the value. -/
def substituteMap (values : OrderedMap String) (keys : Bool) (templates : OrderedMap String)
    (report : List String) : OrderedMap String × List String :=
  let (entries, report) := substituteEntries values keys templates.entries report
  (.ofPairs entries, report)

/-! ## Paths between carets -/

/-- Whether the text between two carets is meant as a path. -/
def isPathText (cs : List Char) : Bool :=
  match cs with
  | c :: _ => c == '$' || c == '@'
  | [] => false

/-- What the text between two carets stands for: the one value that its path selects. -/
def pathValue (document : Json) (expression : String) : Except ResolutionError (List Char) := do
  match (← Path.parse expression).select document with
  | [] => return []
  | [v] => return v.display.toList
  | vs => throw (.multipleMatches expression vs.length)

/-- A text with every path between carets replaced. Carets around anything else stay, and are not
looked at again. -/
def expandText (document : Json) (cs : List Char) : Except ResolutionError (List Char) := do
  match cs with
  | [] => return []
  | '^' :: rest =>
    let inner := rest.takeWhile (· != '^')
    let after := (rest.dropWhile (· != '^')).tail
    if !rest.contains '^' then return cs
    else if inner.isEmpty then return '^' :: (← expandText document rest)
    else if isPathText (Text.trim inner) then
      let value ← pathValue document (String.ofList (Text.trim inner))
      return value ++ (← expandText document after)
    else return '^' :: inner ++ '^' :: (← expandText document after)
  | c :: rest => return c :: (← expandText document rest)
termination_by cs.length
decreasing_by
  all_goals
    have := (List.dropWhile_suffix (· != '^') (l := rest)).length_le
    simp only [List.length_tail, List.length_cons]
    omega

/-- A template with every path between carets replaced. -/
def expand (template : String) (document : Json) : Except ResolutionError String :=
  (expandText document template.toList).map String.ofList

/-- A map of templates with every path between carets replaced in its values. -/
def expandMap (templates : OrderedMap String) (document : Json) :
    Except ResolutionError (OrderedMap String) := do
  let entries ← templates.entries.mapM fun (name, template) => do
    return (name, ← expand template document)
  return .ofPairs entries

end Template

end Mooring
