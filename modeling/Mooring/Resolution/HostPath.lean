import Mooring.Json.Reader
import Mooring.Resolution.Error
import Mooring.Resolved.Basic

set_option autoImplicit false

/-!
# The host directory of a mount

A mount with a source input is bound to a directory that the value of that input names: the path of
a file, the directory of a resource, or that of one of the resources of a site object. A lone
resource is always taken, of several the one with the label that the mount selects.
-/

namespace Mooring.Resolution

/-- The directory of a resource. -/
def directoryOf (mount : Command.Mount) (r : ResourceEntry) : Except ResolutionError String :=
  match r.directory with
  | some d => .ok d
  | none => .error (.mount mount.name (.noDirectory r.label))

/-- The resource of a site object that a mount selects. -/
def chooseResource (mount : Command.Mount) (source : String) (type : InputType) :
    List ResourceEntry → Except ResolutionError ResourceEntry
  | [] => .error (.mount mount.name (.noResources source type))
  | [only] => .ok only
  | several =>
    match several.find? fun r => mount.resource.isSome && r.label == mount.resource with
    | some r => .ok r
    | none => .error (.ambiguousResource mount.name source mount.resource)

/-- The host directory that the value of an input of this type names. -/
def directoryIn (mount : Command.Mount) (source : String) (type : InputType) (value : String) :
    Except ResolutionError String :=
  match type with
  | .file => .ok value
  | .resource =>
    match Json.readAll? value >>= ResourceEntry.ofJson? with
    | some r => directoryOf mount r
    | none => .error (.mount mount.name (.notResource source))
  | type =>
    if type.isSiteObject then
      match Json.readAll? value >>= resourcesOf? with
      | some resources => chooseResource mount source type resources >>= directoryOf mount
      | none => .error (.mount mount.name (.notSiteObject source type))
    else .error (.mount mount.name (.cannotBack type))

/-- The host directory of a mount with a source input. -/
def hostPath (mount : Command.Mount) (inputs : OrderedMap Resolved.Input) :
    Except ResolutionError String :=
  match mount.sourceInput with
  | none => .error (.mount mount.name .noSource)
  | some source =>
    match inputs.get? source with
    | none => .error (.mount mount.name (.undeclaredSource source))
    | some input =>
      match input.value with
      | none => .error (.mount mount.name (.nullSource source))
      | some value => directoryIn mount source input.type value

end Mooring.Resolution
