import Mooring.Lifecycle.Routine

set_option autoImplicit false

/-!
# Recovering interrupted finalizations

A container found `Finalizing` before any event is handled was interrupted by the end of an earlier
process. The first time it is marked `Waiting` and finalized again; the second time it is `Failed`.
-/

namespace Mooring.Recovery

/-- What recovery did: the records marked `Waiting`, those marked `Failed`, and those that could not
be changed. -/
structure Report where
  retried : List Int := []
  failed : List Int := []
  errors : List Int := []
  deriving DecidableEq, Repr

namespace Report

/-- Whether there was nothing to recover. -/
def isEmpty (r : Report) : Bool :=
  r.retried.isEmpty && r.failed.isEmpty && r.errors.isEmpty

/-- The document of a report. -/
def toJson (r : Report) : Json :=
  .obj [("retried", Json.ofList Json.ofInt r.retried), ("failed", Json.ofList Json.ofInt r.failed),
    ("errors", Json.ofList Json.ofInt r.errors)]

end Report

/-- What is recorded the first time. -/
def retryMessage : String := "Finalization was interrupted; will retry."

/-- What is recorded the second time. -/
def gaveUpMessage : String := "Finalization was interrupted after a previous recovery."

/-- The entry for an interrupted container. -/
def entryFor (c : Container) (now : Instant) : HistoryEntry :=
  if c.wasRecovered then .ofSystem now Status.failed.name gaveUpMessage
  else .ofSystem now Status.waiting.name retryMessage

/-- Recover one container. -/
def recover (r : Report) (c : Container) : Routine Report := do
  let id := c.databaseId
  match ← Routine.ask (.append id (entryFor c)) with
  | .error _ => return { r with errors := r.errors ++ [id] }
  | .ok _ =>
    if c.wasRecovered then return { r with failed := r.failed ++ [id] }
    else return { r with retried := r.retried ++ [id] }

/-- Recover every interrupted container. -/
def run : Routine Report := do
  (← Routine.ask (.withStatus .finalizing)).foldlM recover {}

end Mooring.Recovery
