import Mooring.Container.Report
import Mooring.Resolved.Basic

set_option autoImplicit false

/-!
# The container engine

What this system asks of an engine, what the engine answers, and how it may fail. An engine runs
containers, and services that run a container somewhere in a swarm.
-/

namespace Mooring

/-- An image on the engine. -/
structure ImageSummary where
  id : String
  repository : String
  tag : String
  size : String
  created : String
  deriving DecidableEq, Repr

/-- What a container has written. -/
structure ContainerLogs where
  stdout : String := ""
  stderr : String := ""
  deriving DecidableEq, Repr

/-- What went wrong in a call that reached the engine. -/
inductive EngineFault where
  | reported (text : String)
  | notText
  | notJson
  | notTasks
  | openQuote (line : String)
  deriving DecidableEq, Repr

/-- The wording of an engine fault. -/
def EngineFault.message : EngineFault → String
  | reported text => text
  | notText => "Invalid UTF-8 in engine output"
  | notJson => "Failed to parse engine JSON"
  | notTasks => "Failed to parse task inspect output"
  | openQuote line => s!"Cannot split command line \"{line}\": missing closing quote"

/-- Why the engine cannot be reached. -/
inductive Outage where
  | reported (text : String)
  | notRun (program : String)
  | streamEnded (code : Int)
  deriving DecidableEq, Repr

/-- The wording of an outage. -/
def Outage.message : Outage → String
  | reported text => text
  | notRun program => s!"Failed to run {program}"
  | streamEnded code => s!"Event stream exited with exit status: {code}"

/-- Why an engine call failed. -/
inductive EngineError where
  | notConfigured
  | unavailable (outage : Outage)
  | failed (fault : EngineFault)
  | containerNotFound (id : String)
  | serviceNotFound (id : String)
  deriving DecidableEq, Repr

namespace EngineError

/-- The wording of an engine error. -/
def message : EngineError → String
  | notConfigured => "No container engine server is configured"
  | unavailable outage => s!"Container engine is unavailable: {outage.message}"
  | failed fault => s!"Engine CLI error: {fault.message}"
  | containerNotFound id => s!"Container not found: {id}"
  | serviceNotFound id => s!"Service not found: {id}"

/-- Whether the engine could not be used at all. -/
def isOutage : EngineError → Bool
  | notConfigured | unavailable _ => true
  | _ => false

end EngineError

/-- A call to the engine. -/
inductive EngineCall where
  | ping
  | createContainer (command : Resolved)
  | startContainer (id : String)
  | createService (command : Resolved)
  | serviceTasks (service : String)
  | listImages
  | events (since til : Instant)
  | killContainer (id : String)
  | removeService (service : String)
  | containerLogs (id : String)
  | serviceLogs (service : String)

/-- What a call answers when it succeeds: tasks with the latest first, and an identifier for what
was created. -/
@[reducible] def EngineCall.Answer : EngineCall → Type
  | ping | startContainer _ | killContainer _ | removeService _ => Unit
  | createContainer _ | createService _ => String
  | serviceTasks _ => List ServiceTask
  | listImages => List ImageSummary
  | events _ _ => List ContainerEvent
  | containerLogs _ | serviceLogs _ => ContainerLogs

/-- An engine with a state of its own. -/
abbrev Engine (σ : Type) : Type :=
  (call : EngineCall) → σ → Except EngineError call.Answer × σ

namespace ImageSummary

/-- The image the engine writes as a document; what is missing is empty. -/
def ofEngine (v : Json) : ImageSummary :=
  let text (name : String) : String := ((v.member? name).bind Json.asString?).getD ""
  { id := text "ID", repository := text "Repository", tag := text "Tag", size := text "Size",
    created := text "CreatedSince" }

/-- The document of an image. -/
def toJson (i : ImageSummary) : Json :=
  .obj [("id", .str i.id), ("repository", .str i.repository), ("tag", .str i.tag),
    ("size", .str i.size), ("created", .str i.created)]

/-- The image of a document of this system. -/
def ofJson? (v : Json) : Option ImageSummary := do
  let r ← Record.ofJson? ["id", "repository", "tag", "size", "created"] v
  return {
    id := ← r.need "id" Json.asString?
    repository := ← r.need "repository" Json.asString?
    tag := ← r.need "tag" Json.asString?
    size := ← r.need "size" Json.asString?
    created := ← r.need "created" Json.asString? }

end ImageSummary

end Mooring
