import Mooring.Container.Basic
import Mooring.Json.Writer

set_option autoImplicit false

/-!
# Containers as JSON

The record of a container as it is stored. An exit code that was looked up is not part of it.
-/

namespace Mooring.Container

open Json

/-- The document of a container. -/
def toJson (c : Container) : Json :=
  .obj [("databaseId", ofInt c.databaseId), ("commandId", ofInt c.commandId),
    ("wrapperId", ofOption ofInt c.wrapperId), ("containerId", ofOption .str c.containerId),
    ("serviceId", ofOption .str c.serviceId), ("taskId", ofOption .str c.taskId),
    ("nodeId", ofOption .str c.nodeId), ("userId", .str c.userId),
    ("project", ofOption .str c.project), ("dockerImage", .str c.image),
    ("commandLine", .str c.commandLine),
    ("workingDirectory", ofOption .str c.workingDirectory),
    ("environment", ofStringMap c.environment), ("mounts", ofList Resolved.Mount.toJson c.mounts),
    ("inputs", ofList Resolved.Input.toJson c.inputs),
    ("outputs", ofList Resolved.Output.toJson c.outputs), ("swarm", .bool c.swarm),
    ("status", .str c.status.name), ("statusTime", c.statusTime.toJson),
    ("logPaths", ofList .str c.logPaths), ("history", ofList HistoryEntry.toJson c.history)]

/-- The container of a document. -/
def ofJson? (v : Json) : Option Container := do
  let r ← Record.ofJson? ["databaseId", "commandId", "wrapperId", "containerId", "serviceId",
    "taskId", "nodeId", "userId", "project", "dockerImage", "commandLine", "workingDirectory",
    "environment", "mounts", "inputs", "outputs", "swarm", "status", "statusTime", "logPaths",
    "history"] v
  return {
    databaseId := ← r.need "databaseId" asInt64?
    commandId := ← r.need "commandId" asInt64?
    wrapperId := ← r.optional "wrapperId" asInt64?
    containerId := ← r.optional "containerId" asString?
    serviceId := ← r.optional "serviceId" asString?
    taskId := ← r.optional "taskId" asString?
    nodeId := ← r.optional "nodeId" asString?
    userId := ← r.need "userId" asString?
    project := ← r.optional "project" asString?
    image := ← r.need "dockerImage" asString?
    commandLine := ← r.need "commandLine" asString?
    workingDirectory := ← r.optional "workingDirectory" asString?
    environment := ← r.need "environment" asStringMap?
    mounts := ← r.need "mounts" (asList? Resolved.Mount.ofJson?)
    inputs := ← r.need "inputs" (asList? Resolved.Input.ofJson?)
    outputs := ← r.need "outputs" (asList? Resolved.Output.ofJson?)
    swarm := ← r.need "swarm" asBool?
    status := ← r.need "status" (asNamed? Status.names)
    statusTime := ← r.need "statusTime" Instant.ofJson?
    logPaths := ← r.orElse "logPaths" [] (asList? asString?)
    history := ← r.need "history" (asList? HistoryEntry.ofJson?) }

/-- The text of a container as it is stored. -/
def text (c : Container) : String :=
  c.toJson.pretty

/-- The container of a stored text. -/
def ofText? (s : String) : Option Container :=
  (readAll? s).bind ofJson?

end Mooring.Container
