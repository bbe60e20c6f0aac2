import Mooring.Command.Basic
import Mooring.Json.Record

set_option autoImplicit false

/-!
# Commands as JSON

The document of a command, which is also what path substrings of its templates are looked up in.
Optional fields are left out when absent; any field may be left out when read.
-/

namespace Mooring

/-- The type of an input in a document, by its exact name. -/
def InputType.ofJson? : Json → Option InputType :=
  Json.asNamed? InputType.names

namespace Json

/-- The member of an optional text. -/
def optionalText (name : String) (v : Option String) : List (String × Json) :=
  optionalField name .str v

/-- The member of a truth value that is left out when false. -/
def optionalFlag (name : String) (b : Bool) : List (String × Json) :=
  if b then [(name, .bool true)] else []

/-- A natural number. -/
def ofNat (n : Nat) : Json :=
  ofInt n

/-- A double, null when it has no finite value. -/
def ofDouble (d : Double) : Json :=
  if d.isFinite then .num (.double d) else .null

end Json

namespace Command

open Json

/-- The document of an input. -/
def Input.toJson (i : Input) : Json :=
  .obj <|
    [("name", .str i.name)] ++ optionalText "description" i.description ++
    [("type", .str i.type.name), ("required", .bool i.required)] ++
    optionalText "parent" i.parent ++ optionalText "parent-property" i.parentProperty ++
    optionalText "default-value" i.defaultValue ++ optionalText "matcher" i.matcher ++
    optionalText "replacement-key" i.replacementKey ++
    optionalText "command-line-flag" i.flag ++
    optionalText "command-line-separator" i.separator ++
    optionalText "true-value" i.trueValue ++ optionalText "false-value" i.falseValue ++
    optionalFlag "sensitive" i.sensitive

/-- The document of a mount. -/
def Mount.toJson (m : Mount) : Json :=
  .obj <|
    [("name", .str m.name), ("path", .str m.path), ("writable", .bool m.writable)] ++
    optionalText "source-input" m.sourceInput ++ optionalText "resource" m.resource

/-- The document of an output. -/
def Output.toJson (o : Output) : Json :=
  .obj <|
    [("name", .str o.name), ("mount", .str o.mount)] ++ optionalText "path" o.path ++
    optionalText "glob" o.glob ++ [("required", .bool o.required)]

/-- The document of a command. -/
def toJson (c : Command) : Json :=
  .obj <|
    [("id", ofInt c.id), ("name", .str c.name)] ++ optionalText "description" c.description ++
    optionalText "version" c.version ++ [("image", .str c.image)] ++
    optionalText "working-directory" c.workingDirectory ++
    [("command-line", .str c.commandLine), ("environment-variables", ofStringMap c.environment),
      ("ports", ofStringMap c.ports), ("mounts", ofList Mount.toJson c.mounts),
      ("inputs", ofList Input.toJson c.inputs), ("outputs", ofList Output.toJson c.outputs)] ++
    optionalField "reserve-memory" ofNat c.reserveMemory ++
    optionalField "limit-memory" ofNat c.limitMemory ++
    optionalField "limit-cpu" ofDouble c.limitCpu

/-- The input of a document. -/
def Input.ofJson? (v : Json) : Option Input := do
  let r ← Record.ofJson? ["name", "description", "type", "required", "parent", "parent-property",
    "default-value", "matcher", "replacement-key", "command-line-flag", "command-line-separator",
    "true-value", "false-value", "sensitive"] v
  return {
    name := ← r.orElse "name" "" asString?
    description := ← r.option "description" asString?
    type := ← r.orElse "type" .string InputType.ofJson?
    required := ← r.orElse "required" false asBool?
    parent := ← r.option "parent" asString?
    parentProperty := ← r.option "parent-property" asString?
    defaultValue := ← r.option "default-value" asString?
    matcher := ← r.option "matcher" asString?
    replacementKey := ← r.option "replacement-key" asString?
    flag := ← r.option "command-line-flag" asString?
    separator := ← r.option "command-line-separator" asString?
    trueValue := ← r.option "true-value" asString?
    falseValue := ← r.option "false-value" asString?
    sensitive := ← r.orElse "sensitive" false asBool? }

/-- The mount of a document. -/
def Mount.ofJson? (v : Json) : Option Mount := do
  let r ← Record.ofJson? ["name", "path", "writable", "source-input", "resource"] v
  return {
    name := ← r.orElse "name" "" asString?
    path := ← r.orElse "path" "" asString?
    writable := ← r.orElse "writable" false asBool?
    sourceInput := ← r.option "source-input" asString?
    resource := ← r.option "resource" asString? }

/-- The output of a document. -/
def Output.ofJson? (v : Json) : Option Output := do
  let r ← Record.ofJson? ["name", "mount", "path", "glob", "required"] v
  return {
    name := ← r.orElse "name" "" asString?
    mount := ← r.orElse "mount" "" asString?
    path := ← r.option "path" asString?
    glob := ← r.option "glob" asString?
    required := ← r.orElse "required" false asBool? }

/-- The command of a document. -/
def ofJson? (v : Json) : Option Command := do
  let r ← Record.ofJson? ["id", "name", "description", "version", "image", "working-directory",
    "command-line", "environment-variables", "ports", "mounts", "inputs", "outputs",
    "reserve-memory", "limit-memory", "limit-cpu"] v
  return {
    id := ← r.orElse "id" 0 asInt64?
    name := ← r.orElse "name" "" asString?
    description := ← r.option "description" asString?
    version := ← r.option "version" asString?
    image := ← r.orElse "image" "" asString?
    workingDirectory := ← r.option "working-directory" asString?
    commandLine := ← r.orElse "command-line" "" asString?
    environment := ← r.orElse "environment-variables" .empty asStringMap?
    ports := ← r.orElse "ports" .empty asStringMap?
    mounts := ← r.orElse "mounts" [] (asList? Mount.ofJson?)
    inputs := ← r.orElse "inputs" [] (asList? Input.ofJson?)
    outputs := ← r.orElse "outputs" [] (asList? Output.ofJson?)
    reserveMemory := ← r.option "reserve-memory" asNat64?
    limitMemory := ← r.option "limit-memory" asNat64?
    limitCpu := ← r.option "limit-cpu" asDouble? }

end Command

end Mooring
