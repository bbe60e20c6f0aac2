import Mooring.Container.Report

set_option autoImplicit false

/-!
# Events of the lifecycle

What the engine reports to the tracker, and what the tracker tells its subscribers.
-/

namespace Mooring

/-- Something the engine reported: a container event, a task of the service of a record, or that the
service of a record is gone. -/
inductive EngineEvent where
  | container (event : ContainerEvent)
  | task (id : Int) (task : ServiceTask)
  | missing (id : Int)
  deriving DecidableEq

/-- A change that the tracker made. -/
inductive LifecycleEvent where
  | statusChanged (id : Int) (before after : Status) (time : Instant)
  | taskChanged (id : Int) (task status : String) (time : Instant)
  deriving DecidableEq

namespace LifecycleEvent

/-- The record a change belongs to. -/
def id : LifecycleEvent → Int
  | statusChanged id _ _ _ | taskChanged id _ _ _ => id

/-- The document of a change. -/
def toJson : LifecycleEvent → Json
  | statusChanged id before after time =>
    .obj [("type", .str "statusChanged"), ("databaseId", Json.ofInt id), ("from", .str before.name),
      ("to", .str after.name), ("at", time.toJson)]
  | taskChanged id task status time =>
    .obj [("type", .str "serviceTaskChanged"), ("databaseId", Json.ofInt id), ("taskId", .str task),
      ("status", .str status), ("at", time.toJson)]

end LifecycleEvent

end Mooring
