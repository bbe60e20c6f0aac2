import Mooring.Container.History
import Mooring.Resolved.Document

set_option autoImplicit false

/-!
# Containers

The record of a launched container or service. After its launch a record changes by appending
entries to its history, from which its status follows, and by learning the identifiers that the
engine gives to it.
-/

namespace Mooring

/-- The record of a launched container or service. `exitMemo` is an exit code already looked up in
the history. -/
structure Container where
  databaseId : Int := 0
  commandId : Int
  wrapperId : Option Int := none
  containerId : Option String := none
  serviceId : Option String := none
  taskId : Option String := none
  nodeId : Option String := none
  userId : String
  project : Option String := none
  image : String
  commandLine : String
  workingDirectory : Option String := none
  environment : OrderedMap String := .empty
  mounts : List Resolved.Mount := []
  inputs : List Resolved.Input := []
  outputs : List Resolved.Output := []
  swarm : Bool := false
  status : Status := .created
  statusTime : Instant
  logPaths : List String := []
  history : List HistoryEntry := []
  exitMemo : Option String := none
  deriving DecidableEq

namespace Container

/-- The record of a command that a user is about to launch. -/
def ofResolved (now : Instant) (r : Resolved) (user : String) : Container :=
  { commandId := r.commandId, userId := user, image := r.image, commandLine := r.commandLine,
    workingDirectory := r.workingDirectory, environment := r.environment, mounts := r.mounts,
    inputs := r.inputs, outputs := r.outputs, statusTime := now }

/-- The identifier at the engine: that of the service for a service, else that of the container. -/
def externalId? (c : Container) : Option String :=
  if c.swarm then c.serviceId <|> c.containerId else c.containerId

/-- The identifier at the engine as it is shown. -/
def shownExternalId (c : Container) : String :=
  c.externalId?.getD "-"

/-- The identifiers by which the engine may speak of the container. -/
def externalIds (c : Container) : List String :=
  c.containerId.toList ++ c.serviceId.toList

/-- Whether the container has come to its end. -/
def isFinalized (c : Container) : Bool :=
  c.status.isTerminal

/-- The record with the status that its history leads to. -/
def withStatus (c : Container) : Container :=
  match statusOf c.history with
  | some (s, t) => { c with status := s, statusTime := t }
  | none => c

/-- Whether the history already records the event of an entry. -/
def records (c : Container) (e : HistoryEntry) : Bool :=
  c.history.any fun h => h.sameEvent e

/-- The record with one more entry; none when its event is already recorded. -/
def append? (c : Container) (e : HistoryEntry) : Option Container :=
  if c.records e then none else some { c with history := c.history ++ [e] }.withStatus

/-- The first exit code of a history. -/
def firstExitCode? (history : List HistoryEntry) : Option String :=
  history.findSome? HistoryEntry.exitCode

/-- The exit code of the container: the first in its history. -/
def exitCode? (c : Container) : Option String :=
  c.exitMemo <|> firstExitCode? c.history

/-- The record with its exit code looked up. -/
def memoized (c : Container) : Container :=
  { c with exitMemo := c.exitCode? }

/-- Whether a kill was observed or asked for. -/
def wasKilled (c : Container) : Bool :=
  c.history.any fun h =>
    match h.origin with
    | .event => h.status = "kill"
    | .user => h.status = Status.killed.name
    | _ => false

/-- Whether the last report on a service task said that it is complete. -/
def taskCompleted (c : Container) : Bool :=
  (c.history.reverse.find? fun h => h.origin = .service).any fun h =>
    Text.eqIgnoringAsciiCase h.status "complete"

/-- The terminal status of a container that stopped. -/
def terminalStatus (c : Container) : Status :=
  if c.wasKilled then .killed
  else if c.exitCode? = some "0" || c.taskCompleted then .complete
  else .failed

/-- Whether the container was once left waiting for another finalization. -/
def wasRecovered (c : Container) : Bool :=
  c.history.any fun h => h.origin = .system && h.status = Status.waiting.name

/-- Appending an entry appends it. -/
theorem history_of_append? {c d : Container} {e : HistoryEntry} (h : c.append? e = some d) :
    d.history = c.history ++ [e] := by
  unfold append? at h
  split at h
  · simp at h
  · simp only [Option.some.injEq, withStatus] at h
    subst h
    split <;> rfl

/-- An entry is refused exactly when its event is recorded. -/
theorem append?_eq_none_iff (c : Container) (e : HistoryEntry) :
    c.append? e = none ↔ c.records e = true := by
  unfold append?
  split <;> simp_all

end Container

end Mooring
