import Mooring.Lifecycle.Routine

set_option autoImplicit false

/-!
# Tracking containers

The tracker turns what the engine reports into history entries, publishes the changes of status that
follow, and finalizes containers that stopped. A container is finalized while its lock is held, and
one that has come to its end is passed over, so that it is finalized at most once.

Finalizing appends a `Finalizing` entry, runs the finalizer, and appends the terminal entry; a
finalizer that fails makes the container `Failed`.
-/

namespace Mooring.Tracker

/-- The entry of this system for a status. -/
def systemEntry (status : Status) (message : Option String := none) (now : Instant) :
    HistoryEntry :=
  .ofSystem now status.name message

/-- Append an entry and publish the change of status that it makes, if it makes one. -/
def record (id : Int) (entry : Instant → HistoryEntry) : Job (Option StatusChange) := do
  let change ← Job.append id entry
  match change with
  | some c =>
    if c.moved then
      Job.ask (.publish (LifecycleEvent.statusChanged id c.before c.after))
  | none => pure ()
  return change

/-! ## Events -/

/-- Record a container event. -/
def handleContainer (e : ContainerEvent) : Job (Option Int) := do
  match ← Job.ask (.find e.id) with
  | none => return none
  | some id =>
    let change ← record id (HistoryEntry.ofEvent · e)
    return if change.isSome ∧ HistoryEntry.eventEnds e.status then some id else none

/-- The record of a service with what a task says about its place. -/
def withTask (t : ServiceTask) (c : Container) : Container :=
  { c with
    taskId := some t.taskId
    nodeId := some t.nodeId
    containerId := t.containerId <|> c.containerId }

/-- Record the task of a service. -/
def handleTask (id : Int) (t : ServiceTask) : Job (Option Int) := do
  match ← record id (HistoryEntry.ofTask · t) with
  | none => return none
  | some _ =>
    let _ ← Job.update id (withTask t)
    Job.ask (.publish (LifecycleEvent.taskChanged id t.taskId t.status))
    return if t.isExited then some id else none

/-- What is recorded when a service is gone that nobody killed. -/
def missingMessage : String := "Not found on swarm."

/-- Record that a service is gone; one that was killed is ready to be finalized. -/
def handleMissing (id : Int) : Job (Option Int) := do
  match ← Job.ask (.get id) with
  | some c =>
    if c.wasKilled then return some id
  | none => pure ()
  let _ ← record id (systemEntry .failed missingMessage)
  return none

/-- Record an event. The value is the record that is now to be finalized, if there is one. -/
def handle : EngineEvent → Job (Option Int)
  | .container e => handleContainer e
  | .task id t => handleTask id t
  | .missing id => handleMissing id

/-! ## Finalization -/

/-- The message of a terminal entry. -/
def terminalMessage (status : Status) (exitCode : Option String) : Option String :=
  match exitCode with
  | some code => if status = .failed ∧ code ≠ "" then some s!"Exit code {code}" else none
  | none => none

/-- Finalize a record that has not come to its end. -/
def finalizeRecord (id : Int) (c : Container) : Job Status := do
  let _ ← record id (systemEntry .finalizing)
  match ← Job.ask (.finalizer c) with
  | .error causes =>
    let _ ← record id (systemEntry .failed s!"Finalization failed: {Error.joined causes}")
    return .failed
  | .ok paths =>
    let c ← Job.update id fun c => { c with logPaths := c.logPaths ++ paths }
    let status := c.terminalStatus
    let _ ← record id (systemEntry status (terminalMessage status c.exitCode?))
    return status

/-- Finalize a container, unless it has come to its end. The value is the status it was given. -/
def finalize (id : Int) : Job (Option Status) :=
  Job.locked id do
    let c ← Job.need id
    if c.isFinalized then return none
    return some (← finalizeRecord id c)

/-- Record an event, and finalize the container that it ended. -/
def process (e : EngineEvent) : Job (Option Status) := do
  match ← handle e with
  | some id => finalize id
  | none => return none

/-- Finalize every container that waits for another finalization. -/
def refinalizeWaiting : Routine (List (Int × Except Error (Option Status))) := do
  let waiting ← Routine.ask (.withStatus .waiting)
  waiting.mapM fun c => do
    let result ← (finalize c.databaseId).run
    return (c.databaseId, result)

/-! ## Killing -/

/-- Kill a container that has not stopped, at the request of a user. A plain container only gets
the request recorded, and its end finalizes it. A service leaves no end to observe once it is
removed, so it is finalized first, while its logs can be read. -/
def killRunning (id : Int) (user : String) (c : Container) : Job Status := do
  let request (now : Instant) : HistoryEntry := .ofUser now Status.killed.name user
  match c.swarm, c.externalId? with
  | false, some external =>
    Job.engine (.killContainer external)
    let _ ← record id request
    match ← Job.ask (.get id) with
    | some c => return c.status
    | none => return c.status
  | true, some external =>
    Job.engine .ping
    let _ ← record id request
    let status ← finalize id
    Job.engine (.removeService external)
    return status.getD .killed
  | _, none =>
    let _ ← record id request
    return (← finalize id).getD .killed

/-- Kill a container; one that has stopped is left alone. The value is its status. -/
def kill (id : Int) (user : String) : Job Status := do
  let c ← Job.need id
  if c.isFinalized ∨ c.status = .finalizing ∨ c.status = .waiting then return c.status
  killRunning id user c

/-! ## Many events -/

/-- Record events in order; one that fails is passed over. The value lists the records that are now
to be finalized. -/
def handleAll : List EngineEvent → Routine (List Int)
  | [] => return []
  | e :: rest => do
    match ← (handle e).run with
    | .ok (some id) => return id :: (← handleAll rest)
    | _ => handleAll rest

/-- Record events in order and finalize what they ended. Finalizations do not hold up the events:
they come after them, in the order in which they were asked for. -/
def drain (events : List EngineEvent) : Routine Unit := do
  for id in ← handleAll events do
    let _ ← (finalize id).run

end Mooring.Tracker
