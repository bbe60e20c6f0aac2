import Mooring.Lifecycle.Event
import Mooring.Proofs.Container.Ending

set_option autoImplicit false

/-!
# Records up to recording times

Two records are the same up to the times at which things were recorded if they have the same
`timeless` record. Nothing that the tracker decides depends on those times: a timeless record grows
by timeless entries just as the record does (`Container.append?_timeless`), and it comes to the same
end (`Container.terminalStatus_timeless`).
-/

namespace Mooring

/-! ## Entries and events -/

namespace HistoryEntry

/-- The entry without the time at which it was recorded. -/
def timeless (e : HistoryEntry) : HistoryEntry :=
  { e with recorded := .epoch }

variable (e f : HistoryEntry)

@[simp] theorem status?_timeless : e.timeless.status? = e.status? :=
  rfl

@[simp] theorem sameEvent_timeless : e.timeless.sameEvent f.timeless = e.sameEvent f :=
  rfl

/-- The entry of a container event differs in the time alone. -/
theorem timeless_ofEvent (now later : Instant) (e : ContainerEvent) :
    (ofEvent now e).timeless = (ofEvent later e).timeless :=
  rfl

end HistoryEntry

/-- The change without the time at which it was made. -/
def LifecycleEvent.timeless : LifecycleEvent → LifecycleEvent
  | statusChanged id before after _ => statusChanged id before after .epoch
  | taskChanged id task status _ => taskChanged id task status .epoch

/-! ## Statuses -/

/-- A status without the time at which it was reached. -/
def StatusReached.timeless (r : StatusReached) : StatusReached :=
  (r.1, .epoch)

theorem nextStatus_timeless (current : Option StatusReached) (e : HistoryEntry) :
    nextStatus (current.map StatusReached.timeless) e.timeless =
      (nextStatus current e).map StatusReached.timeless := by
  have hterminal : (current.map StatusReached.timeless).any (fun s => s.1.isTerminal) =
      current.any fun s => s.1.isTerminal := by
    cases current <;> rfl
  have horigin : e.timeless.origin = e.origin := rfl
  unfold nextStatus
  rw [hterminal, horigin, HistoryEntry.status?_timeless]
  split
  · rfl
  · cases e.status? <;> rfl

/-- A timeless history leads to the same status. -/
theorem statusOf_timeless (history : List HistoryEntry) :
    statusOf (history.map HistoryEntry.timeless) =
      (statusOf history).map StatusReached.timeless := by
  induction history using List.reverseRecOn with
  | nil => rfl
  | append_singleton rest e ih =>
    rw [List.map_append, List.map_singleton, statusOf_append_singleton, ih, nextStatus_timeless,
      statusOf_append_singleton]

/-! ## Records -/

namespace Container

/-- The record without the times at which things were recorded. -/
def timeless (c : Container) : Container :=
  { c with statusTime := .epoch, history := c.history.map HistoryEntry.timeless }

variable (c : Container)

@[simp] theorem databaseId_timeless : c.timeless.databaseId = c.databaseId :=
  rfl

@[simp] theorem externalIds_timeless : c.timeless.externalIds = c.externalIds :=
  rfl

@[simp] theorem status_timeless : c.timeless.status = c.status :=
  rfl

@[simp] theorem isFinalized_timeless : c.timeless.isFinalized = c.isFinalized :=
  rfl

theorem withStatus_timeless : c.timeless.withStatus = c.withStatus.timeless := by
  have hstatus : statusOf c.timeless.history = (statusOf c.history).map StatusReached.timeless :=
    statusOf_timeless c.history
  unfold withStatus
  rw [hstatus]
  cases statusOf c.history <;> rfl

@[simp] theorem records_timeless (e : HistoryEntry) :
    c.timeless.records e.timeless = c.records e :=
  List.any_map

/-- A timeless record grows as the record does. -/
theorem append?_timeless (e : HistoryEntry) :
    c.timeless.append? e.timeless = (c.append? e).map timeless := by
  have hhistory : { c.timeless with history := c.timeless.history ++ [e.timeless] } =
      { c with history := c.history ++ [e] }.timeless := by
    simp [timeless]
  unfold append?
  rw [records_timeless]
  split
  · rfl
  · rw [hhistory, withStatus_timeless]
    rfl

@[simp] theorem wasKilled_timeless : c.timeless.wasKilled = c.wasKilled :=
  List.any_map

@[simp] theorem exitCode?_timeless : c.timeless.exitCode? = c.exitCode? := by
  have hcode : firstExitCode? (c.history.map HistoryEntry.timeless) = firstExitCode? c.history :=
    List.findSome?_map
  exact congrArg (c.exitMemo <|> ·) hcode

@[simp] theorem taskCompleted_timeless : c.timeless.taskCompleted = c.taskCompleted := by
  unfold taskCompleted timeless
  rw [← List.map_reverse, List.find?_map]
  exact Option.any_map

/-- A timeless record comes to the same end. -/
@[simp] theorem terminalStatus_timeless : c.timeless.terminalStatus = c.terminalStatus := by
  unfold terminalStatus
  rw [wasKilled_timeless, exitCode?_timeless, taskCompleted_timeless]

section Alike

variable {c} {d : Container}

/-- Records that are the same up to times stay so when they get the same entry up to its time. -/
theorem append?_alike (h : c.timeless = d.timeless) {e f : HistoryEntry}
    (he : e.timeless = f.timeless) :
    (c.append? e).map timeless = (d.append? f).map timeless := by
  rw [← append?_timeless, ← append?_timeless, h, he]

theorem status_alike (h : c.timeless = d.timeless) : c.status = d.status := by
  rw [← status_timeless, h, status_timeless]

theorem databaseId_alike (h : c.timeless = d.timeless) : c.databaseId = d.databaseId := by
  rw [← databaseId_timeless, h, databaseId_timeless]

theorem externalIds_alike (h : c.timeless = d.timeless) : c.externalIds = d.externalIds := by
  rw [← externalIds_timeless, h, externalIds_timeless]

end Alike

end Container

end Mooring
