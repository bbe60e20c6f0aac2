import Mooring.Engine.Basic

set_option autoImplicit false

/-!
# A simulated engine

An engine without containers. It hands out identifiers, remembers what it was asked, and answers
from events, tasks, logs and images that it is given. Switches make it fail.
-/

namespace Mooring

/-- Ways in which the simulated engine fails. -/
structure EngineSwitches where
  notConfigured : Bool := false
  unavailable : Bool := false
  failCreate : Bool := false
  failStart : Bool := false
  failLogs : Bool := false
  deriving DecidableEq, Repr

/-- The state of the simulated engine. It counts what it has created; `calls` are the calls that
reached it. -/
structure SimulatedEngine where
  switches : EngineSwitches := {}
  count : Nat := 0
  created : OrderedMap Resolved := .empty
  events : List ContainerEvent := []
  tasks : List (String × List ServiceTask) := []
  logs : OrderedMap ContainerLogs := .empty
  images : List ImageSummary := []
  calls : List EngineCall := []

namespace SimulatedEngine

/-- Calls that nobody asks about are not remembered. -/
def isRemembered : EngineCall → Bool
  | .ping | .listImages => false
  | _ => true

/-- The engine with a call remembered. -/
def remember (e : SimulatedEngine) (call : EngineCall) : SimulatedEngine :=
  if isRemembered call then { e with calls := e.calls ++ [call] } else e

/-- Why the engine cannot be used, if it cannot. -/
def outage? (e : SimulatedEngine) : Option EngineError :=
  if e.switches.notConfigured then some .notConfigured
  else if e.switches.unavailable then some (.unavailable (.reported "mock engine unavailable"))
  else none

/-- The failure of a call that a switch makes fail. -/
def failure (text : String) : EngineError :=
  .failed (.reported text)

/-- The engine with the tasks of a service replaced. -/
def setTasks (e : SimulatedEngine) (service : String) (tasks : List ServiceTask) :
    SimulatedEngine :=
  { e with tasks := setPair service tasks e.tasks }

/-- The engine with a service forgotten. -/
def forgetService (e : SimulatedEngine) (service : String) : SimulatedEngine :=
  { e with tasks := e.tasks.filter fun t => t.1 ≠ service }

/-- The engine with an event that happened. -/
def addEvent (e : SimulatedEngine) (event : ContainerEvent) : SimulatedEngine :=
  { e with events := e.events ++ [event] }

/-- The engine with one more image. -/
def addImage (e : SimulatedEngine) (image : ImageSummary) : SimulatedEngine :=
  { e with images := e.images ++ [image] }

/-- The engine with what a container or service has written replaced. -/
def setLogs (e : SimulatedEngine) (id : String) (logs : ContainerLogs) : SimulatedEngine :=
  { e with logs := e.logs.set id logs }

/-- Create what a command asks for, under the next identifier of a kind. -/
def create (e : SimulatedEngine) (kind : String) (command : Resolved) :
    Except EngineError String × SimulatedEngine :=
  if e.switches.failCreate then (.error (failure "mock create failure"), e)
  else
    let id := s!"{kind}-{e.count + 1}"
    (.ok id, { e with count := e.count + 1, created := e.created.set id command })

/-- Whether a container can be started. -/
def start (e : SimulatedEngine) (id : String) : Except EngineError Unit :=
  if e.switches.failStart then .error (failure "mock start failure")
  else if (e.created.get? id).isSome then .ok ()
  else .error (.containerNotFound id)

/-- The tasks of a service. -/
def tasksOf (e : SimulatedEngine) (service : String) : Except EngineError (List ServiceTask) :=
  match e.tasks.lookup service with
  | some tasks => .ok tasks
  | none => .error (.serviceNotFound service)

/-- The events whose second lies between two instants, both included. -/
def eventsBetween (e : SimulatedEngine) (since til : Instant) : List ContainerEvent :=
  e.events.filter fun v => since.seconds ≤ v.time && v.time ≤ til.seconds

/-- What a container or service has written. -/
def logsOf (e : SimulatedEngine) (id : String) : Except EngineError ContainerLogs :=
  if e.switches.failLogs then .error (failure "mock log failure")
  else .ok ((e.logs.get? id).getD {})

/-- What an engine that can be used answers. -/
def reached (e : SimulatedEngine) :
    (call : EngineCall) → Except EngineError call.Answer × SimulatedEngine
  | .createContainer command => e.create "mock-container" command
  | .createService command =>
    match e.create "mock-service" command with
    | (.ok id, e) => (.ok id, e.setTasks id [])
    | (.error error, e) => (.error error, e)
  | .startContainer id => (e.start id, e)
  | .serviceTasks service => (e.tasksOf service, e)
  | .listImages => (.ok e.images, e)
  | .events since til => (.ok (e.eventsBetween since til), e)
  | .containerLogs id | .serviceLogs id => (e.logsOf id, e)
  | .ping | .killContainer _ | .removeService _ => (.ok (), e)

/-- The simulated engine as an engine. -/
def engine : Engine SimulatedEngine := fun call e =>
  match e.outage? with
  | some error => (.error error, e)
  | none => (e.remember call).reached call

end SimulatedEngine

end Mooring
