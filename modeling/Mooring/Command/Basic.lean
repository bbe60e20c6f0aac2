import Mooring.Double.Basic
import Mooring.OrderedMap
import Mooring.Text.Search

set_option autoImplicit false

/-!
# Commands

A command describes a unit of work to run in a container: an image, a command line with
placeholders, typed inputs, mounts, templates for environment and ports, and outputs. Text fields
in it are templates; what fills them in is the subject of `Mooring.Resolution`.
-/

namespace Mooring

/-- The type of an input, which decides how its value is derived. -/
inductive InputType where
  | string
  | boolean
  | number
  | file
  | resource
  | project
  | subject
  | session
  | scan
  | assessor
  | config
  deriving DecidableEq, Repr

namespace InputType

/-- All input types. -/
def all : List InputType :=
  [string, boolean, number, file, resource, project, subject, session, scan, assessor, config]

/-- The name of an input type. -/
def name : InputType → String
  | string => "string"
  | boolean => "boolean"
  | number => "number"
  | file => "file"
  | resource => "resource"
  | project => "project"
  | subject => "subject"
  | session => "session"
  | scan => "scan"
  | assessor => "assessor"
  | config => "config"

/-- The input types by name. -/
def names : List (String × InputType) :=
  all.map fun t => (t.name, t)

/-- The type of a name in any case. -/
def ofName? (s : String) : Option InputType :=
  all.find? fun t => Text.eqIgnoringAsciiCase t.name s

/-- The message for a name that is no input type. -/
def unknownMessage (s : String) : String :=
  s!"unknown input type '{s}'"

/-- Types whose values are objects of the site. -/
def isSiteObject : InputType → Bool
  | project | subject | session | scan | assessor => true
  | _ => false

end InputType

/-- An input: where its value comes from and how it enters the templates. -/
structure Command.Input where
  name : String := ""
  description : Option String := none
  type : InputType := .string
  required : Bool := false
  parent : Option String := none
  parentProperty : Option String := none
  defaultValue : Option String := none
  matcher : Option String := none
  replacementKey : Option String := none
  flag : Option String := none
  separator : Option String := none
  trueValue : Option String := none
  falseValue : Option String := none
  sensitive : Bool := false
  deriving DecidableEq, Repr

/-- A directory bound to a path in the container. -/
structure Command.Mount where
  name : String := ""
  path : String := ""
  writable : Bool := false
  sourceInput : Option String := none
  resource : Option String := none
  deriving DecidableEq, Repr

/-- A file or directory produced inside a mount. -/
structure Command.Output where
  name : String := ""
  mount : String := ""
  path : Option String := none
  glob : Option String := none
  required : Bool := false
  deriving DecidableEq, Repr

/-- A command definition. Memory is counted in mebibytes. -/
structure Command where
  id : Int := 0
  name : String := ""
  description : Option String := none
  version : Option String := none
  image : String := ""
  workingDirectory : Option String := none
  commandLine : String := ""
  environment : OrderedMap String := .empty
  ports : OrderedMap String := .empty
  mounts : List Command.Mount := []
  inputs : List Command.Input := []
  outputs : List Command.Output := []
  reserveMemory : Option Nat := none
  limitMemory : Option Nat := none
  limitCpu : Option Double := none
  deriving DecidableEq

namespace Command

/-- The first input of a name. -/
def input? (c : Command) (name : String) : Option Input :=
  c.inputs.find? fun i => i.name = name

/-- The first mount of a name. -/
def mount? (c : Command) (name : String) : Option Mount :=
  c.mounts.find? fun m => m.name = name

end Command

end Mooring
