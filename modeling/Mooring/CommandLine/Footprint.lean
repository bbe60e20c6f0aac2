import Mooring.CommandLine.Session

set_option autoImplicit false

/-!
# The files of a request

Which files a request reads, so that they can be fetched before it is carried out. What a later step
needs follows from the files of the steps before it: the settings say where records are, and a
command with its inputs says which objects of the site are looked up.
-/

namespace Mooring.CommandLine

namespace Request

/-- The settings file. -/
def settingsPath (r : Request) : String :=
  r.config.getD Settings.defaultPath

/-- Where the command of an invocation comes from. -/
def source? (r : Request) : Option InputSource :=
  match r.invocation with
  | .resolve source | .launch source _ _ => some source
  | _ => none

/-- The files that are named on the command line. -/
def namedPaths (r : Request) : List String :=
  r.source?.toList.flatMap fun s => s.commandFile :: s.inputsFile.toList

end Request

namespace Context

variable {ε : Type} (ctx : Context ε)

/-- The object that an input names, if it names one. -/
def objectPath? (dir : String) (command : Command) (values : OrderedMap String)
    (i : Command.Input) : Option String := do
  if !i.type.isSiteObject then none
  let template ← values.get? i.name <|> i.defaultValue
  let id ← (Template.expand template command.toJson).toOption
  return SiteLookup.objectPath dir i.type id

/-- The objects of the site that a source looks up. -/
def objectPaths (source : InputSource) (files : FileTree) : List String :=
  match ctx.settings.siteDataDir, inputsOf source files with
  | some dir, .ok (command, values) =>
    command.inputs.filterMap (objectPath? dir command values)
  | _, _ => []

/-- The file of a record. -/
def recordPath (id : Nat) : String :=
  Store.recordPath ctx.settings.containersDir id

end Context

end Mooring.CommandLine
