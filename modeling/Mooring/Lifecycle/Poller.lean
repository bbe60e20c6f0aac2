import Mooring.Lifecycle.Failures
import Mooring.Lifecycle.Routine

set_option autoImplicit false

/-!
# Polling the engine

A poll asks the engine what happened and sends it on to the tracker. Of plain containers it asks for
the events since the last check up to now, and notes the time of the check after all of them are
sent. Of services it asks for the latest task of every service that has not come to its end.
-/

namespace Mooring.Poller

/-- Send an event on. -/
def send (e : EngineEvent) : Job Unit := do
  if !(← Job.ask (.send e)) then throw .channelClosed

/-- Send the events since the last check. The value is their number. -/
def pollEvents (lastCheck : Option Instant) : Job Nat := do
  let now ← Job.ask .clock
  let events ← Job.engine (.events (lastCheck.getD .epoch) now)
  events.forM fun e => send (.container e)
  Job.attempt .server (Routine.ask (.saveCheckTime now))
  return events.length

/-- Send what the engine says about the service of a record. The value is the number of events. An
engine that cannot be used is an error, another failure concerns this service alone. -/
def pollService (c : Container) : Job Nat := do
  match c.serviceId with
  | none => return 0
  | some service =>
    match ← Job.ask (.engine (.serviceTasks service)) with
    | .ok [] => return 0
    | .ok (t :: _) =>
      send (.task c.databaseId t)
      return 1
    | .error (.serviceNotFound _) =>
      send (.missing c.databaseId)
      return 1
    | .error e => if e.isOutage then throw (.engine e) else return 0

/-- Send what the engine says about the services that have not come to their end. -/
def pollServices : Job Nat := do
  (← Job.ask .openServices).foldlM (fun sent c => do return sent + (← pollService c)) 0

/-- Poll once. The value is the number of events sent. -/
def poll : Job Nat := do
  match ← Job.attempt .server (Routine.ask .loadServer) with
  | none => throw (.engine .notConfigured)
  | some server => if server.swarmMode then pollServices else pollEvents server.lastEventCheck

/-- Poll once and keep count of failures. -/
def tick (f : Failures) : Routine Failures := do
  match ← poll.run with
  | .ok _ => return f.succeed.2
  | .error e => return (f.fail (.ofError e) (← Routine.ask .clock)).2

end Mooring.Poller
