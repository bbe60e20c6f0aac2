import Mooring.Json.Reader
import Mooring.Resolution.Template
import Mooring.Resolved.Basic

set_option autoImplicit false

/-!
# How the value of an input is derived

Each type of input has a rule, which sees the candidate value, the resolved parent, the matcher and
the site, and gives a value, no value, or an error. Rules that pick something out of a parent look
at the candidates that a path selects, keep those that the value names and the matcher accepts,
and take the first.
-/

namespace Mooring.Resolution

variable [Regex.Compiler]

/-- What the rule of an input may look at. -/
structure InputContext where
  input : Command.Input
  value : Option String
  parent : Option Resolved.Input
  matcher : Option Filter
  site : SiteLookup

/-- Derives the value of an input. -/
abbrev InputRule : Type :=
  InputContext → Except ResolutionError (Option String)

/-- The rule of each type, where there is one. -/
abbrev InputRules : Type :=
  InputType → Option InputRule

namespace InputContext

/-- The error for a fault of the input. -/
def fault (ctx : InputContext) (f : InputFault) : ResolutionError :=
  .input ctx.input.name f

/-- A fault that leaves an optional input without a value. -/
def unlessOptional (ctx : InputContext) (f : InputFault) :
    Except ResolutionError (Option String) :=
  if ctx.input.required then .error (ctx.fault f) else .ok none

/-- The document that a text writes. -/
def readJson (ctx : InputContext) (source : JsonSource) (text : String) :
    Except ResolutionError Json :=
  match Json.read? text with
  | some v => .ok v
  | none => .error (ctx.fault (.notJson source))

/-- The value of the parent as a document; none when there is no parent or it has no value. -/
def parentDocument (ctx : InputContext) : Except ResolutionError (Option Json) :=
  match ctx.parent with
  | none => .ok none
  | some p =>
    match p.value with
    | none => .ok none
    | some text => some <$> ctx.readJson (.parentValue p.name) text

/-- The candidates that the matcher accepts. -/
def matching (ctx : InputContext) (found : List Json) : List Json :=
  match ctx.matcher with
  | some m => m.retain found
  | none => found

/-- The candidates that the value names, in the sense of a filter. -/
def naming (ctx : InputContext) (by' : String → Filter) (found : List Json) : List Json :=
  match ctx.value with
  | some v => (by' v).retain found
  | none => found

end InputContext

/-! ## Picking from a document -/

/-- The items of the one list among values, or the values themselves. -/
def itemsOfOne : List Json → List Json
  | [.arr items] => items
  | found => found

/-- What an expression selects in a document; a list selected alone stands for its items. -/
def candidates (document : Json) (expression : String) : Except ResolutionError (List Json) := do
  return itemsOfOne ((← Path.parse expression).select document)

/-- The filter for items whose identifier or label is a text. -/
def idOrLabel (value : String) : Filter :=
  (Filter.fieldEquals "id" value).or (Filter.fieldEquals "label" value)

/-- The filter for items of a name. -/
def named (value : String) : Filter :=
  Filter.fieldEquals "name" value

/-- The text of the first value. -/
def firstText (found : List Json) : Option String :=
  found.head?.map Json.display

/-- The text of the first value that an expression selects. -/
def firstProperty (document : Json) (expression : String) :
    Except ResolutionError (Option String) := do
  return firstText ((← Path.parse expression).select document)

/-! ## The rules -/

/-- A text: the property of the parent if it has one, else the value. -/
def stringRule : InputRule := fun ctx => do
  match ctx.input.parentProperty with
  | none => return ctx.value
  | some property =>
    match ← ctx.parentDocument with
    | none => return ctx.value
    | some document => return (← firstProperty document property) <|> ctx.value

/-- The truth value of a text, blanks and case aside. -/
def flag? (raw : String) : Option Bool :=
  let text := Text.trimmed raw
  if Text.eqIgnoringAsciiCase text "true" then some true
  else if Text.eqIgnoringAsciiCase text "false" then some false
  else none

/-- A truth value, written as the input says. -/
def booleanRule : InputRule := fun ctx =>
  match ctx.value with
  | none => .ok none
  | some raw =>
    match flag? raw with
    | some true => .ok (some (ctx.input.trueValue.getD "true"))
    | some false => .ok (some (ctx.input.falseValue.getD "false"))
    | none => ctx.unlessOptional (.notBoolean raw)

/-- A number, as it is written but for the blanks around it. -/
def numberRule : InputRule := fun ctx =>
  match ctx.value with
  | none => .ok none
  | some raw =>
    if (Double.readText? (Text.trim raw.toList)).isSome then .ok (some (Text.trimmed raw))
    else ctx.unlessOptional (.notNumber raw)

/-- A file of the parent, by name. -/
def fileRule : InputRule := fun ctx => do
  if ctx.input.parent.isNone then throw (ctx.fault .parentNeeded)
  match ← ctx.parentDocument with
  | none => return none
  | some document =>
    let found ← candidates document (ctx.input.parentProperty.getD "$.files")
    return firstText (ctx.matching (ctx.naming named found))

/-- A resource of the parent, by identifier or label; without a parent the value itself. -/
def resourceRule : InputRule := fun ctx => do
  if ctx.input.parent.isNone then return ctx.value
  match ← ctx.parentDocument with
  | none => return none
  | some document =>
    let found ← candidates document (ctx.input.parentProperty.getD "$.resources")
    return firstText (ctx.matching (ctx.naming idOrLabel found))

/-- A configuration value: the property of the parent, or the value if none is asked for. -/
def configRule : InputRule := fun ctx => do
  match ← ctx.parentDocument, ctx.input.parentProperty with
  | some document, some property => firstProperty document property
  | _, _ => return ctx.value

/-- The site object that a value writes or names. -/
def siteObject (ctx : InputContext) (type : InputType) (raw : String) :
    Except ResolutionError (Option Json) :=
  let text := Text.trimmed raw
  match text.toList with
  | '{' :: _ => some <$> ctx.readJson .value text
  | '[' :: _ => do
    match ← ctx.readJson .value text with
    | .arr items => return items.head?
    | _ => return none
  | _ =>
    match ctx.site type text with
    | .ok (some found) => .ok (some found)
    | .ok none => .error (ctx.fault (.notFound type text))
    | .error e => .error (ctx.fault (.lookupFailed type text e))

/-- Where objects of a type stand in their parent by default. -/
def defaultCollection? : InputType → Option String
  | .subject => some "$.subjects"
  | .session => some "$.sessions"
  | .scan => some "$.scans"
  | .assessor => some "$.assessors"
  | _ => none

/-- A site object without a parent: what the value writes or names, if the matcher accepts it. -/
def freeObjectRule (type : InputType) : InputRule := fun ctx => do
  match ctx.value with
  | none => return none
  | some raw =>
    match ← siteObject ctx type raw with
    | none => return none
    | some object =>
      match ctx.matcher with
      | some m =>
        if m.accepts object then return some object.display
        else throw (ctx.fault (.unsatisfied type m.source))
      | none => return some object.display

/-- A site object inside its parent, by identifier or label. -/
def nestedObjectRule (type : InputType) : InputRule := fun ctx => do
  match ← ctx.parentDocument with
  | none => return none
  | some document =>
    match ctx.input.parentProperty <|> defaultCollection? type with
    | none => throw (ctx.fault (.propertyNeeded type))
    | some expression =>
      let found := ctx.naming idOrLabel (← candidates document expression)
      match ctx.matcher with
      | some m =>
        if (m.retain found).isEmpty then
          let parent := (ctx.parent.map Resolved.Input.name).getD ""
          throw (ctx.fault (.noneSatisfies type parent m.source))
        else return firstText (m.retain found)
      | none => return firstText found

/-- A site object. -/
def siteObjectRule (type : InputType) : InputRule := fun ctx =>
  if ctx.input.parent.isNone then freeObjectRule type ctx else nestedObjectRule type ctx

/-- The rules of all types. -/
def InputRules.standard : InputRules
  | .string => some stringRule
  | .boolean => some booleanRule
  | .number => some numberRule
  | .file => some fileRule
  | .resource => some resourceRule
  | .config => some configRule
  | type => some (siteObjectRule type)

/-- No rule for any type. -/
def InputRules.none : InputRules :=
  fun _ => Option.none

end Mooring.Resolution
