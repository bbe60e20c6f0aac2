import Mooring.Lifecycle.Recovery
import Mooring.Proofs.Lifecycle.Discipline
import Mooring.Proofs.Lifecycle.Redelivery
import Mooring.Proofs.Lifecycle.Relay

set_option autoImplicit false

/-!
# What the tracker does at all

The actions of the tracker and of recovery, whatever they are answered: records are changed by what
a task says about its place and by the files of the finalizer only, entries bear the time at which
they are made, and none but recovery marks a record as waiting for another finalization.
-/

namespace Mooring

/-- Whether an entry leaves a record waiting for another finalization. -/
def HistoryEntry.marksWaiting (e : HistoryEntry) : Bool :=
  e.origin = .system && e.status = Status.waiting.name

theorem Container.wasRecovered_eq (c : Container) :
    c.wasRecovered = c.history.any HistoryEntry.marksWaiting :=
  rfl

/-- The record with more files of the finalizer. -/
def Container.withPaths (paths : List String) (c : Container) : Container :=
  { c with logPaths := c.logPaths ++ paths }

/-- Whether the tracker takes an action, if the tasks that it hears of are some given ones. -/
def Action.IsTracking (tasks : Int → ServiceTask → Prop) : Action → Prop
  | .append _ entry => ∀ now, (entry now).recorded = now ∧ (entry now).marksWaiting = false
  | .update id change =>
    (∃ t, tasks id t ∧ change = Tracker.withTask t) ∨ ∃ paths, change = Container.withPaths paths
  | .find _ | .get _ | .withStatus _ | .publish _ | .lock _ | .unlock _ | .finalizer _ => True
  | _ => False

namespace Tracker

open Routine

variable {tasks : Int → ServiceTask → Prop}

theorem tracking_record (id : Int) {entry : Instant → HistoryEntry}
    (h : ∀ now, (entry now).recorded = now ∧ (entry now).marksWaiting = false) :
    (record id entry).run.All (Action.IsTracking tasks) :=
  all_record h fun _ => trivial

theorem marksWaiting_systemEntry (status : Status) (h : status ≠ .waiting)
    (message : Option String) (now : Instant) : (systemEntry status message now).recorded = now ∧
      (systemEntry status message now).marksWaiting = false := by
  refine ⟨rfl, ?_⟩
  cases status <;> first | rfl | exact absurd rfl h

theorem marksWaiting_entry (e : EngineEvent) (now : Instant) :
    (e.entry now).recorded = now ∧ (e.entry now).marksWaiting = false := by
  cases e with
  | container e => exact ⟨rfl, rfl⟩
  | task id t => exact ⟨rfl, rfl⟩
  | missing id => exact marksWaiting_systemEntry .failed nofun _ now

theorem Handles.isTracking {e : EngineEvent} (htasks : ∀ id t, e = .task id t → tasks id t)
    {action : Action} (h : Handles e action) : action.IsTracking tasks := by
  cases h with
  | noteEvent id e => exact marksWaiting_entry (.container e)
  | noteTask id t => exact marksWaiting_entry (.task id t)
  | noteMissing id => exact marksWaiting_entry (.missing id)
  | place id t => exact .inl ⟨t, htasks id t rfl, rfl⟩
  | find | get | publish => trivial

theorem tracking_handle {e : EngineEvent} (h : ∀ id t, e = .task id t → tasks id t) :
    (handle e).run.All (Action.IsTracking tasks) :=
  (handles_handle e).mono fun _ => Handles.isTracking h

/-- What follows an entry takes what a task says about its place, and publishes that. -/
theorem all_afterEntry {P : Action → Prop} {store : Store} {e : EngineEvent} {id : Int}
    (hid : e.target? store = some id)
    (hplace : ∀ t, e = .task id t → P (.update id (withTask t)))
    (hpublish : ∀ event, P (.publish event)) (change : Option StatusChange) :
    (afterEntry id e change).run.All P := by
  cases e with
  | container e => trivial
  | missing other => trivial
  | task other t =>
    obtain rfl : other = id := Option.some.inj hid
    cases change with
    | none => trivial
    | some change =>
      refine All.bindJob ⟨hplace t rfl, fun _ => trivial⟩ fun _ => ?_
      exact All.bindJob (.ask (hpublish _)) fun _ => trivial

theorem terminalStatus_ne_waiting (c : Container) : c.terminalStatus ≠ .waiting := by
  intro h
  have hterminal := terminalStatus_isTerminal c
  rw [h] at hterminal
  cases hterminal

theorem tracking_finalizeRecord (id : Int) (c : Container) :
    (finalizeRecord id c).run.All (Action.IsTracking tasks) := by
  refine All.bindJob (tracking_record id (marksWaiting_systemEntry .finalizing nofun _)) fun _ => ?_
  refine All.bindJob (.ask trivial) fun answer => ?_
  cases answer with
  | error causes =>
    exact All.bindJob (tracking_record id (marksWaiting_systemEntry .failed nofun _)) fun _ => trivial
  | ok paths =>
    refine All.bindJob ⟨.inr ⟨paths, rfl⟩, fun _ => trivial⟩ fun c => ?_
    exact All.bindJob
      (tracking_record id (marksWaiting_systemEntry _ (terminalStatus_ne_waiting c) _))
      fun _ => trivial

theorem tracking_finalize (id : Int) : (finalize id).run.All (Action.IsTracking tasks) := by
  have hfinalize : (Job.need id >>= fun c => do
      if c.isFinalized then return none
      return some (← finalizeRecord id c) : Job _).run.All (Action.IsTracking tasks) := by
    have hneed : (Job.need id).run.All (Action.IsTracking tasks) := by
      refine ⟨trivial, fun answer => ?_⟩
      cases answer <;> trivial
    refine All.bindJob hneed fun c => ?_
    split
    · trivial
    · exact All.bindJob (tracking_finalizeRecord id c) fun _ => trivial
  refine ⟨trivial, fun _ => ?_⟩
  show (Routine.bind (ExceptT.run _) _).All _
  exact All.bind hfinalize fun _ => ⟨trivial, fun _ => trivial⟩

theorem tracking_process {e : EngineEvent} (h : ∀ id t, e = .task id t → tasks id t) :
    (process e).run.All (Action.IsTracking tasks) := by
  refine All.bindJob (tracking_handle h) fun found => ?_
  cases found with
  | none => trivial
  | some id => exact tracking_finalize id

end Tracker

end Mooring
