import Mooring.Command.Basic

set_option autoImplicit false

/-!
# Resolved commands

A resolved command has a final value for every input and no template left to fill. A launch changes
it in two ways only: it sets environment variables, and it points a mount at a host directory.
-/

namespace Mooring

/-- An input with its final value, if it has one. -/
structure Resolved.Input where
  name : String
  type : InputType
  value : Option String
  parent : Option String := none
  sensitive : Bool := false
  deriving DecidableEq, Repr

/-- A mount with its directory, as seen from the site and from the engine. -/
structure Resolved.Mount where
  name : String
  containerPath : String
  writable : Bool
  hostPath : Option String
  enginePath : Option String := none
  sourceInput : Option String := none
  deriving DecidableEq, Repr

/-- An output with its path. -/
structure Resolved.Output where
  name : String
  mount : String
  path : Option String := none
  glob : Option String := none
  required : Bool
  deriving DecidableEq, Repr

/-- A command that is ready to launch. -/
structure Resolved where
  commandId : Int
  commandName : String
  image : String
  workingDirectory : Option String := none
  commandLine : String
  environment : OrderedMap String := .empty
  ports : OrderedMap String := .empty
  mounts : List Resolved.Mount := []
  inputs : List Resolved.Input := []
  outputs : List Resolved.Output := []
  reserveMemory : Option Nat := none
  limitMemory : Option Nat := none
  limitCpu : Option Double := none
  deriving DecidableEq

namespace Resolved

/-- What is shown in place of a secret. -/
def mask : String := "********"

/-- The value of an input as it may be shown. -/
def Input.shown (i : Input) : String :=
  match i.value with
  | none => "null"
  | some v => if i.sensitive then mask else v

/-- The directory to bind: as seen from the engine if that is known. -/
def Mount.bindSource? (m : Mount) : Option String :=
  m.enginePath <|> m.hostPath

/-- The first input of a name. -/
def input? (r : Resolved) (name : String) : Option Input :=
  r.inputs.find? fun i => i.name = name

/-- The first mount of a name. -/
def mount? (r : Resolved) (name : String) : Option Mount :=
  r.mounts.find? fun m => m.name = name

/-- The value of the first input of a name. -/
def inputValue? (r : Resolved) (name : String) : Option String :=
  (r.input? name).bind Input.value

/-- Set environment variables. -/
def setEnvironment (r : Resolved) (pairs : List (String × String)) : Resolved :=
  { r with environment := r.environment.setAll pairs }

/-- Change the first mount of a name. -/
def changeFirst (name : String) (f : Mount → Mount) : List Mount → List Mount
  | [] => []
  | m :: rest => if m.name = name then f m :: rest else m :: changeFirst name f rest

/-- The mount bound to a directory. -/
def Mount.boundTo (m : Mount) (host engine : String) : Mount :=
  { m with hostPath := some host, enginePath := some engine }

/-- Point the first mount of a name at a directory. -/
def bindMount (r : Resolved) (name host engine : String) : Resolved :=
  { r with mounts := changeFirst name (·.boundTo host engine) r.mounts }

end Resolved

end Mooring
