import Mooring.Command.Document
import Mooring.Resolved.Basic

set_option autoImplicit false

/-!
# Resolved commands as JSON

Unlike a command definition, a resolved command has to name most of its fields. A few optional
ones are left out when absent, the others are null.
-/

namespace Mooring.Resolved

open Json

/-- An optional text, null when absent. -/
def nullable (v : Option String) : Json :=
  ofOption .str v

/-- The document of an input. -/
def Input.toJson (i : Input) : Json :=
  .obj <|
    [("name", .str i.name), ("type", .str i.type.name), ("value", nullable i.value)] ++
    optionalText "parent" i.parent ++ optionalFlag "sensitive" i.sensitive

/-- The document of a mount. -/
def Mount.toJson (m : Mount) : Json :=
  .obj <|
    [("name", .str m.name), ("container-path", .str m.containerPath),
      ("writable", .bool m.writable), ("host-path", nullable m.hostPath)] ++
    optionalText "engine-host-path" m.enginePath ++ optionalText "source-input" m.sourceInput

/-- The document of an output. -/
def Output.toJson (o : Output) : Json :=
  .obj <|
    [("name", .str o.name), ("mount", .str o.mount)] ++ optionalText "path" o.path ++
    optionalText "glob" o.glob ++ [("required", .bool o.required)]

/-- The document of a resolved command. -/
def toJson (r : Resolved) : Json :=
  .obj <|
    [("command-id", ofInt r.commandId), ("command-name", .str r.commandName),
      ("image", .str r.image), ("working-directory", nullable r.workingDirectory),
      ("command-line", .str r.commandLine), ("environment", ofStringMap r.environment),
      ("ports", ofStringMap r.ports), ("mounts", ofList Mount.toJson r.mounts),
      ("inputs", ofList Input.toJson r.inputs), ("outputs", ofList Output.toJson r.outputs)] ++
    optionalField "reserve-memory" ofNat r.reserveMemory ++
    optionalField "limit-memory" ofNat r.limitMemory ++
    optionalField "limit-cpu" ofDouble r.limitCpu

/-- The input of a document. -/
def Input.ofJson? (v : Json) : Option Input := do
  let r ← Record.ofJson? ["name", "type", "value", "parent", "sensitive"] v
  return {
    name := ← r.need "name" asString?
    type := ← r.need "type" InputType.ofJson?
    value := ← r.optional "value" asString?
    parent := ← r.option "parent" asString?
    sensitive := ← r.orElse "sensitive" false asBool? }

/-- The mount of a document. -/
def Mount.ofJson? (v : Json) : Option Mount := do
  let r ← Record.ofJson? ["name", "container-path", "writable", "host-path", "engine-host-path",
    "source-input"] v
  return {
    name := ← r.need "name" asString?
    containerPath := ← r.need "container-path" asString?
    writable := ← r.need "writable" asBool?
    hostPath := ← r.optional "host-path" asString?
    enginePath := ← r.option "engine-host-path" asString?
    sourceInput := ← r.option "source-input" asString? }

/-- The output of a document. -/
def Output.ofJson? (v : Json) : Option Output := do
  let r ← Record.ofJson? ["name", "mount", "path", "glob", "required"] v
  return {
    name := ← r.need "name" asString?
    mount := ← r.need "mount" asString?
    path := ← r.option "path" asString?
    glob := ← r.option "glob" asString?
    required := ← r.need "required" asBool? }

/-- The resolved command of a document. -/
def ofJson? (v : Json) : Option Resolved := do
  let r ← Record.ofJson? ["command-id", "command-name", "image", "working-directory",
    "command-line", "environment", "ports", "mounts", "inputs", "outputs", "reserve-memory",
    "limit-memory", "limit-cpu"] v
  return {
    commandId := ← r.need "command-id" asInt64?
    commandName := ← r.need "command-name" asString?
    image := ← r.need "image" asString?
    workingDirectory := ← r.optional "working-directory" asString?
    commandLine := ← r.need "command-line" asString?
    environment := ← r.need "environment" asStringMap?
    ports := ← r.need "ports" asStringMap?
    mounts := ← r.need "mounts" (asList? Mount.ofJson?)
    inputs := ← r.need "inputs" (asList? Input.ofJson?)
    outputs := ← r.need "outputs" (asList? Output.ofJson?)
    reserveMemory := ← r.option "reserve-memory" asNat64?
    limitMemory := ← r.option "limit-memory" asNat64?
    limitCpu := ← r.option "limit-cpu" asDouble? }

end Mooring.Resolved
