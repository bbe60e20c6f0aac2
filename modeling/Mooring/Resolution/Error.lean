import Mooring.Path.Error
import Mooring.Site.Basic

set_option autoImplicit false

/-!
# Why a command cannot be resolved

The causes for which an input gets no value, a mount no directory, or a command no resolution.
-/

namespace Mooring

/-- What was expected to be JSON. -/
inductive JsonSource where
  | value
  | parentValue (parent : String)
  deriving DecidableEq, Repr

/-- The name of a JSON source in messages. -/
def JsonSource.shown : JsonSource → String
  | value => "value"
  | parentValue p => s!"value of parent \"{p}\""

/-- Why an input gets no value. -/
inductive InputFault where
  | notBoolean (raw : String)
  | notNumber (raw : String)
  | notJson (source : JsonSource)
  | parentNeeded
  | notFound (type : InputType) (id : String)
  | lookupFailed (type : InputType) (id : String) (error : SiteError)
  | unsatisfied (type : InputType) (matcher : String)
  | propertyNeeded (type : InputType)
  | noneSatisfies (type : InputType) (parent matcher : String)
  | noRule (type : InputType)
  deriving DecidableEq, Repr

/-- The wording of an input fault. -/
def InputFault.message : InputFault → String
  | notBoolean raw => s!"\"{raw}\" is not a boolean"
  | notNumber raw => s!"\"{raw}\" is not a number"
  | notJson source => s!"{source.shown} is not valid JSON"
  | parentNeeded => "inputs of type file must declare a parent"
  | notFound type id => s!"no {type.name} with identifier \"{id}\" could be found"
  | lookupFailed type id e => s!"lookup of {type.name} \"{id}\" failed: {e.fullMessage}"
  | unsatisfied type matcher => s!"{type.name} does not satisfy matcher \"{matcher}\""
  | propertyNeeded type =>
    s!"a {type.name} cannot be found inside a parent without a parent-property"
  | noneSatisfies type parent matcher =>
    s!"no {type.name} in parent \"{parent}\" satisfies matcher \"{matcher}\""
  | noRule type => s!"no resolver registered for type {type.name}"

/-- Why a mount gets no directory. -/
inductive MountFault where
  | noSource
  | undeclaredSource (input : String)
  | nullSource (input : String)
  | notResource (input : String)
  | notSiteObject (input : String) (type : InputType)
  | noResources (input : String) (type : InputType)
  | noDirectory (label : Option String)
  | cannotBack (type : InputType)
  deriving DecidableEq, Repr

/-- The wording of a mount fault. -/
def MountFault.message : MountFault → String
  | noSource => "mount has no source input"
  | undeclaredSource n => s!"source input \"{n}\" is not declared"
  | nullSource n => s!"source input \"{n}\" resolved to null"
  | notResource n => s!"source input \"{n}\" is not a resource"
  | notSiteObject n type => s!"source input \"{n}\" is not a {type.name}"
  | noResources n type => s!"{type.name} \"{n}\" has no resources"
  | noDirectory label => "resource " ++ label.getD "(unlabeled)" ++ " has no directory"
  | cannotBack type => s!"inputs of type {type.name} cannot back a mount"

/-- Why a command cannot be resolved. -/
inductive ResolutionError where
  | circularParent (path : List String)
  | parentNotFound (input parent : String)
  | requiredInput (input : String)
  | input (name : String) (fault : InputFault)
  | mount (name : String) (fault : MountFault)
  | ambiguousResource (mount input : String) (selector : Option String)
  | invalidPath (expression : String) (cause : Path.PathError)
  | multipleMatches (expression : String) (count : Nat)

/-- The wording of a resolution error. -/
def ResolutionError.message : ResolutionError → String
  | circularParent names => "Circular parent reference between inputs: " ++ " -> ".intercalate names
  | parentNotFound i p =>
    s!"Input \"{i}\" declares parent \"{p}\", but no input with that name exists"
  | requiredInput i => s!"No value could be resolved for required input \"{i}\""
  | input n fault => s!"Could not resolve input \"{n}\": {fault.message}"
  | mount n fault => s!"Could not resolve mount \"{n}\": {fault.message}"
  | ambiguousResource m i selector =>
    s!"Mount \"{m}\": source input \"{i}\" has several resources and none is labeled " ++
      match selector with
      | some s => s!"\"{s}\""
      | none => "(no resource selector given)"
  | invalidPath expression cause => s!"Invalid path expression \"{expression}\": {cause.message}"
  | multipleMatches expression count =>
    s!"Path expression \"{expression}\" matched {count} values; expected at most one"

end Mooring
