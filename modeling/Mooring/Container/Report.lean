import Mooring.Container.Status
import Mooring.Json.Reader
import Mooring.Time.Rfc3339

set_option autoImplicit false

/-!
# What the engine reports

Container events and service tasks, as this system keeps them and as the engine writes them.
-/

namespace Mooring

/-- The document of an instant. -/
def Instant.toJson (t : Instant) : Json :=
  .str t.text

/-- The instant of a document. -/
def Instant.ofJson? (v : Json) : Option Instant :=
  v.asString?.bind Instant.ofRelaxed?

/-- A container event. Times count seconds and nanoseconds since the start of 1970. -/
structure ContainerEvent where
  status : String
  id : String
  time : Int
  timeNano : Int
  attributes : OrderedMap String := .empty
  deriving DecidableEq

/-- A task of a service. -/
structure ServiceTask where
  serviceId : String
  taskId : String
  nodeId : String
  status : String
  statusTime : Option Instant := none
  containerId : Option String := none
  message : Option String := none
  exitCode : Option Int := none
  deriving DecidableEq

/-! ## Container events -/

namespace ContainerEvent

/-- Only the death of a container carries its exit status. -/
def carriesExit (e : ContainerEvent) : Bool :=
  e.status = "die"

/-- The exit code of an event; a death without one has an empty code. -/
def exitCode? (e : ContainerEvent) : Option String :=
  match e.attributes.get? "exitCode" with
  | some code => some code
  | none => if e.carriesExit then some "" else none

/-- An integer kept within the signed 64-bit range. -/
def saturated (n : Int) : Int :=
  max (-Int.pow 2 63) (min (Int.pow 2 63 - 1) n)

/-- The event the engine writes as a document; other documents, and events of anything but
containers, are none. -/
def ofEngine? (v : Json) : Option ContainerEvent := do
  let kind := ((v.member? "Type").bind Json.asString?).getD "container"
  if kind ≠ "container" then none
  let status ← ((v.member? "status") <|> v.member? "Action").bind Json.asString?
  let actor := v.member? "Actor"
  let id ← ((v.member? "id") <|> actor.bind (·.member? "ID")).bind Json.asString?
  let time := ((v.member? "time").bind Json.asInt64?).getD 0
  let timeNano :=
    ((v.member? "timeNano").bind Json.asInt64?).getD (saturated (time * 1000000000))
  let attributes := match actor.bind (·.member? "Attributes") with
    | some (.obj members) => members.filterMap fun m => m.2.asString?.map fun s => (m.1, s)
    | _ => []
  return { status, id, time, timeNano, attributes := .ofPairs attributes }

/-- The event on a line of text. -/
def ofLine? (line : String) : Option ContainerEvent :=
  (Json.read? (Text.trimmed line)).bind ofEngine?

/-- The event of a document of this system. -/
def ofJson? (v : Json) : Option ContainerEvent := do
  let r ← Record.ofJson? ["status", "id", "time", "timeNano", "attributes"] v
  return {
    status := ← r.need "status" Json.asString?
    id := ← r.need "id" Json.asString?
    time := ← r.need "time" Json.asInt64?
    timeNano := ← r.need "timeNano" Json.asInt64?
    attributes := ← r.orElse "attributes" .empty Json.asStringMap? }

end ContainerEvent

/-! ## Service tasks -/

namespace ServiceTask

/-- The phase of a task. -/
def phase (t : ServiceTask) : TaskPhase :=
  .ofState t.status

/-- Whether a task has come to its end. -/
def isExited (t : ServiceTask) : Bool :=
  t.phase = .exited

/-- A text that is not empty. -/
def nonEmpty? (s : String) : Option String :=
  if s.isEmpty then none else some s

/-- The time of a task status, in whole milliseconds. -/
def statusTimeOf? (s : String) : Option Instant :=
  (Instant.ofStrict? s).bind fun t => Instant.ofMillis? t.toMillis

/-- The task the engine writes as a document. The message is the error, if there is one. -/
def ofEngine? (v : Json) : Option ServiceTask := do
  let status ← v.member? "Status"
  let container := status.member? "ContainerStatus"
  let text (v : Json) (name : String) : Option String := (v.member? name).bind Json.asString?
  return {
    serviceId := ← text v "ServiceID"
    taskId := ← text v "ID"
    nodeId := (text v "NodeID").getD ""
    status := ← text status "State"
    statusTime := (text status "Timestamp").bind statusTimeOf?
    containerId := (container.bind (text · "ContainerID")).bind nonEmpty?
    message := ((text status "Err").bind nonEmpty?) <|> text status "Message"
    exitCode := (container.bind (·.member? "ExitCode")).bind Json.asInt64? }

/-- The document of a task. -/
def toJson (t : ServiceTask) : Json :=
  .obj [("serviceId", .str t.serviceId), ("taskId", .str t.taskId), ("nodeId", .str t.nodeId),
    ("status", .str t.status), ("statusTime", Json.ofOption Instant.toJson t.statusTime),
    ("containerId", Json.ofOption .str t.containerId), ("message", Json.ofOption .str t.message),
    ("exitCode", Json.ofOption Json.ofInt t.exitCode)]

/-- The task of a document of this system. -/
def ofJson? (v : Json) : Option ServiceTask := do
  let r ← Record.ofJson? ["serviceId", "taskId", "nodeId", "status", "statusTime", "containerId",
    "message", "exitCode"] v
  return {
    serviceId := ← r.need "serviceId" Json.asString?
    taskId := ← r.need "taskId" Json.asString?
    nodeId := ← r.need "nodeId" Json.asString?
    status := ← r.need "status" Json.asString?
    statusTime := ← r.optional "statusTime" Instant.ofJson?
    containerId := ← r.optional "containerId" Json.asString?
    message := ← r.optional "message" Json.asString?
    exitCode := ← r.optional "exitCode" Json.asInt64? }

end ServiceTask

end Mooring
