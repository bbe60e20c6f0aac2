import Mooring.Json.Record
import Mooring.Text.Letters
import Mooring.Text.Search

set_option autoImplicit false

/-!
# Container status

The coarse status of a container, who reports on it, and the phase of a service task. Names of
statuses are exact in history entries and of any case where a user types them.
-/

namespace Mooring

/-- Who made a history entry: the engine about a container, this system, a user, or the engine about
a service task. -/
inductive Origin where
  | event
  | system
  | user
  | service
  deriving DecidableEq, Repr

namespace Origin

/-- The name of an origin. -/
def name : Origin → String
  | event => "event"
  | system => "system"
  | user => "user"
  | service => "service"

/-- The origins by name. -/
def names : List (String × Origin) :=
  [event, system, user, service].map fun o => (o.name, o)

/-- Whether entries of this origin come from the engine. -/
def isEngine : Origin → Bool
  | event | service => true
  | system | user => false

end Origin

/-- The coarse status of a container. A container is waiting when its finalization was interrupted
and may be tried once more. -/
inductive Status where
  | created
  | starting
  | running
  | waiting
  | finalizing
  | complete
  | failed
  | killed
  deriving DecidableEq, Repr

namespace Status

/-- All statuses. -/
def all : List Status :=
  [created, starting, running, waiting, finalizing, complete, failed, killed]

/-- The name of a status. -/
def name : Status → String
  | created => "Created"
  | starting => "Starting"
  | running => "Running"
  | waiting => "Waiting"
  | finalizing => "Finalizing"
  | complete => "Complete"
  | failed => "Failed"
  | killed => "Killed"

/-- The statuses by name. -/
def names : List (String × Status) :=
  all.map fun s => (s.name, s)

/-- The status of an exact name. -/
def ofName? (name : String) : Option Status :=
  names.lookup name

/-- The status of a name in any case. -/
def ofAnyCase? (s : String) : Option Status :=
  all.find? fun t => Text.eqIgnoringAsciiCase t.name s

/-- The message for a name that is no status. -/
def unknownMessage (s : String) : String :=
  s!"unknown container status '{s}'"

/-- Whether a container in this status has come to its end. -/
def isTerminal : Status → Bool
  | complete | failed | killed => true
  | _ => false

/-- Every status is found by its own name. -/
@[simp] theorem ofName?_name (s : Status) : ofName? s.name = some s := by
  cases s <;> decide

end Status

/-- How far a service task has come. -/
inductive TaskPhase where
  | notStarted
  | running
  | exited
  | unknown
  deriving DecidableEq, Repr

namespace TaskPhase

/-- The task states before a task runs. -/
def statesBefore : List String :=
  ["new", "allocated", "pending", "assigned", "accepted", "preparing", "ready", "starting"]

/-- The task states after a task has run, or has been given up. -/
def statesAfter : List String :=
  ["complete", "shutdown", "failed", "rejected"]

/-- Whether a task state is one of the given, case folded. -/
def isOneOf (states : List String) (state : String) : Bool :=
  states.any fun s => Text.eqFolding s.toList state.toList

/-- The phase of a task state. -/
def ofState (state : String) : TaskPhase :=
  if isOneOf statesBefore state then notStarted
  else if isOneOf ["running"] state then running
  else if isOneOf statesAfter state then exited
  else unknown

/-- The name of a phase. -/
def name : TaskPhase → String
  | notStarted => "NotStarted"
  | running => "Running"
  | exited => "Exited"
  | unknown => "Unknown"

end TaskPhase

end Mooring
