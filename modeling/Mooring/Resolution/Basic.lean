import Mooring.Command.Document
import Mooring.Resolution.HostPath
import Mooring.Resolution.Order
import Mooring.Resolution.Rules

set_option autoImplicit false

/-!
# Resolving commands

Inputs resolve one after another, parents first. Their values then fill the templates of the
command, and give the mounts their directories. Paths between carets in any template are looked
up in the document of the command itself.
-/

namespace Mooring.Resolution

/-- What a resolution depends on beside the command. -/
structure Scope where
  rules : InputRules := .standard
  site : SiteLookup := .nothing
  values : String → Option String := fun _ => none

/-! ## Inputs -/

variable [Regex.Compiler]

/-- The value of one input, given the inputs before it. -/
def resolveInput (scope : Scope) (document : Json) (resolved : OrderedMap Resolved.Input)
    (input : Command.Input) : Except ResolutionError (Option String) := do
  let value ← (scope.values input.name <|> input.defaultValue).mapM (Template.expand · document)
  let matcher ← input.matcher.mapM fun m => do
    Filter.parse (← Template.expand m document)
  match scope.rules input.type with
  | none => throw (.input input.name (.noRule input.type))
  | some rule =>
    rule ⟨input, value, input.parent.bind resolved.get?, matcher, scope.site⟩

/-- Resolve one more input; a required one needs a value. -/
def addInput (scope : Scope) (document : Json) (resolved : OrderedMap Resolved.Input)
    (input : Command.Input) : Except ResolutionError (OrderedMap Resolved.Input) := do
  let value ← resolveInput scope document resolved input
  if value.isNone && input.required then throw (.requiredInput input.name)
  return resolved.set input.name
    { name := input.name, type := input.type, value, parent := input.parent,
      sensitive := input.sensitive }

/-- The resolved inputs of a command, in the order in which they are declared. -/
def resolveInputs (scope : Scope) (c : Command) :
    Except ResolutionError (OrderedMap Resolved.Input) := do
  let order ← resolutionOrder c.inputs
  let resolved ← (order.filterMap (c.inputs[·]?)).foldlM (addInput scope c.toJson) .empty
  return .ofPairs (c.inputs.filterMap fun i => (resolved.get? i.name).map fun r => (i.name, r))

/-! ## Placeholders -/

/-- The value of an input as it stands on a command line: after its flag, unless it is empty. -/
def onCommandLine (input : Command.Input) (value : String) : String :=
  match input.flag with
  | some flag => if value.isEmpty then value else flag ++ input.separator.getD " " ++ value
  | none => value

/-- The tokens of inputs with their values, `form` giving the text of a value. -/
def placeholders (inputs : List Command.Input) (resolved : OrderedMap Resolved.Input)
    (form : Command.Input → String → String) : OrderedMap String :=
  .ofPairs <| inputs.filterMap fun i => i.replacementKey.map fun key =>
    (key, form i (((resolved.get? i.name).bind Resolved.Input.value).getD ""))

/-- A template filled from placeholders. -/
def filled (values : OrderedMap String) (template : String) : String :=
  (Template.substitute values template []).1

/-- A map of templates filled from placeholders, its keys as well. -/
def filledMap (values templates : OrderedMap String) : OrderedMap String :=
  (Template.substituteMap values true templates []).1

/-! ## Commands -/

/-- A mount with its directory and its path in the container. -/
def resolveMount (values : OrderedMap String) (inputs : OrderedMap Resolved.Input)
    (m : Command.Mount) : Except ResolutionError Resolved.Mount := do
  let host ← if m.sourceInput.isSome then some <$> hostPath m inputs else pure none
  return { name := m.name, containerPath := filled values m.path, writable := m.writable,
           hostPath := host, sourceInput := m.sourceInput }

/-- An output with its path. -/
def resolveOutput (values : OrderedMap String) (o : Command.Output) : Resolved.Output :=
  { name := o.name, mount := o.mount, path := o.path.map (filled values), glob := o.glob,
    required := o.required }

/-- The resolved form of a command. -/
def resolve (scope : Scope) (c : Command) : Except ResolutionError Resolved := do
  let inputs ← resolveInputs scope c
  let document := c.toJson
  let values := placeholders c.inputs inputs fun _ v => v
  let arguments := placeholders c.inputs inputs onCommandLine
  let commandLine ← Template.expand c.commandLine document
  let environment ← Template.expandMap c.environment document
  let ports ← Template.expandMap c.ports document
  let workingDirectory ← c.workingDirectory.mapM (Template.expand · document)
  let mounts ← c.mounts.mapM (resolveMount values inputs)
  return {
    commandId := c.id
    commandName := c.name
    image := c.image
    workingDirectory := workingDirectory.map (filled values)
    commandLine := filled arguments commandLine
    environment := filledMap values environment
    ports := filledMap values ports
    mounts
    inputs := inputs.entries.map Prod.snd
    outputs := c.outputs.map (resolveOutput values)
    reserveMemory := c.reserveMemory
    limitMemory := c.limitMemory
    limitCpu := c.limitCpu }

end Mooring.Resolution
