import Mooring.Command.Basic
import Mooring.Text.Blank

set_option autoImplicit false

/-!
# What a command must satisfy

The faults a definition can have in itself, before any value is known. `Command.faults` lists all
of them; a command without faults has an image, distinct names, a path for every mount, and mounts
and outputs that refer to what is declared.
-/

namespace Mooring

/-- A fault of a command definition. -/
inductive CommandFault where
  | noImage
  | unnamedInput
  | duplicateInput (name : String)
  | ownParent (name : String)
  | duplicateMount (name : String)
  | noContainerPath (mount : String)
  | undeclaredSource (mount source : String)
  | duplicateOutput (name : String)
  | undeclaredMount (output mount : String)
  deriving DecidableEq, Repr

/-- The wording of a fault. -/
def CommandFault.message : CommandFault → String
  | noImage => "image must not be empty"
  | unnamedInput => "inputs must have a name"
  | duplicateInput n => s!"duplicate input name \"{n}\""
  | ownParent n => s!"input \"{n}\" cannot be its own parent"
  | duplicateMount n => s!"duplicate mount name \"{n}\""
  | noContainerPath m => s!"mount \"{m}\" has no container path"
  | undeclaredSource m s => s!"mount \"{m}\" names source input \"{s}\", which is not declared"
  | duplicateOutput n => s!"duplicate output name \"{n}\""
  | undeclaredMount o m => s!"output \"{o}\" refers to mount \"{m}\", which is not declared"

/-- Why no command can be had from a text or file. -/
inductive CommandError where
  | notJson
  | wrongShape
  | notObject
  | invalid (faults : List CommandFault)
  | unreadable
  | notFound (path : String)
  deriving DecidableEq, Repr

/-- The wording of a command error. -/
def CommandError.message : CommandError → String
  | notJson => "Failed to parse command definition: JSON parsing error"
  | wrongShape => "Failed to parse command definition: Deserialization error"
  | notObject =>
    "Failed to parse command definition: a command definition must be a JSON object"
  | invalid faults =>
    "Invalid command definition:\n" ++ "\n".intercalate (faults.map fun f => "  " ++ f.message)
  | unreadable => "Failed to read command definition"
  | notFound path => s!"Command definition not found: {path}"

namespace Command

/-- The fault in a list unless a condition holds. -/
def faultUnless (holds : Bool) (fault : CommandFault) : List CommandFault :=
  if holds then [] else [fault]

/-- The faults of inputs that follow inputs of the given names. -/
def inputFaults : List String → List Input → List CommandFault
  | _, [] => []
  | seen, i :: rest =>
    (if Text.isBlankText i.name then [.unnamedInput]
      else faultUnless (!seen.contains i.name) (.duplicateInput i.name)) ++
    faultUnless (i.parent ≠ some i.name) (.ownParent i.name) ++
    inputFaults (i.name :: seen) rest

/-- Whether an input of this name is declared; a blank name declares nothing. -/
def declaresInput (c : Command) (name : String) : Bool :=
  !Text.isBlankText name && c.inputs.any fun i => i.name = name

/-- Whether a mount of this name is declared. -/
def declaresMount (c : Command) (name : String) : Bool :=
  c.mounts.any fun m => m.name = name

/-- The faults of mounts that follow mounts of the given names. -/
def mountFaults (c : Command) : List String → List Mount → List CommandFault
  | _, [] => []
  | seen, m :: rest =>
    faultUnless (!seen.contains m.name) (.duplicateMount m.name) ++
    faultUnless (!Text.isBlankText m.path) (.noContainerPath m.name) ++
    (m.sourceInput.toList.flatMap fun s =>
      faultUnless (c.declaresInput s) (.undeclaredSource m.name s)) ++
    mountFaults c (m.name :: seen) rest

/-- The faults of outputs that follow outputs of the given names. -/
def outputFaults (c : Command) : List String → List Output → List CommandFault
  | _, [] => []
  | seen, o :: rest =>
    faultUnless (!seen.contains o.name) (.duplicateOutput o.name) ++
    faultUnless (c.declaresMount o.mount) (.undeclaredMount o.name o.mount) ++
    outputFaults c (o.name :: seen) rest

/-- All faults of a command. -/
def faults (c : Command) : List CommandFault :=
  faultUnless (!Text.isBlankText c.image) .noImage ++ inputFaults [] c.inputs ++
    mountFaults c [] c.mounts ++ outputFaults c [] c.outputs

/-- A command with faults is refused. -/
def check (c : Command) : Except CommandError Unit :=
  if c.faults.isEmpty then .ok () else .error (.invalid c.faults)

/-- A command passes exactly when it has no faults. -/
theorem check_eq_ok_iff (c : Command) : c.check = .ok () ↔ c.faults = [] := by
  unfold check
  split <;> simp_all

end Command

end Mooring
