import Mooring.Lifecycle.Tracker
import Mooring.Lifecycle.World
import Mooring.Proofs.Store.Lookup

set_option autoImplicit false

/-!
# Calls of the tracker at work beside each other

A pool is a world with the calls of one tracker that are in progress in it. The moves of a pool
start a call, let one of them do its next action, or let something happen outside; any list of moves
that can be made is a run, so that a statement about every list of moves is one about every
interleaving. A call that handled an event and answers with a record starts the finalization of it.

`Pool.follow?_append` cuts a run in two, and `advance?_cases` says what the next step of a call is.
-/

namespace Mooring

/-- Every change of a record is saved. -/
def Surroundings.Saves {σ : Type} (s : Surroundings σ) : Prop :=
  s.shelf.Saves

/-- Surroundings in which nothing goes wrong and nothing happens: every save succeeds, nothing is
written, and the engine cannot be reached. -/
def Surroundings.still : Surroundings Unit where
  now _ := ⟨0, 0⟩
  shelf := .none
  engine _ outside := (.error .notConfigured, outside)
  finalizer _ outside := (.ok [], outside)
  loadServer _ := .ok none
  saveCheckTime _ outside := (.ok (), outside)
  issueToken _ outside := (.ok "", outside)
  makeBuildDirectory outside := (.ok "", outside)

theorem Surroundings.still_saves : Surroundings.still.Saves :=
  Shelf.none_saves

/-- Whether an action calls the finalizer for the record of an identifier. -/
def Action.finalizes (id : Int) : Action → Bool
  | .finalizer c => c.databaseId = id
  | _ => false

theorem Routine.advance?_step {α σ : Type} (s : Surroundings σ) (w : World σ) (action : Action)
    (next : action.Answer → Routine α) :
    (Routine.step action next).advance? s w =
      if w.ready action then some (next (s.perform w action).1, (s.perform w action).2) else none :=
  rfl

namespace Tracker

/-- The record of a service. -/
def service : Container :=
  { databaseId := 1, commandId := 1, serviceId := some "s1", userId := "u", image := "i",
    commandLine := "l", swarm := true, statusTime := ⟨0, 0⟩ }

/-- The store with the record of a service. -/
def serviceStore : Store :=
  { records := [service], index := .ofPairs [("s1", 1)], nextId := 2 }

theorem get?_serviceStore : serviceStore.get? 1 = some service := by
  rfl

/-- A call in progress. Its value lists the records that are to be finalized after it. -/
abbrev Task : Type :=
  Routine (List Int)

/-- Whether nothing is left to do for a task. -/
def isOver : Task → Bool
  | .done [] => true
  | _ => false

/-- What may be asked of a tracker. -/
inductive Call where
  | handle (event : EngineEvent)
  | finalize (id : Int)
  | kill (id : Int) (user : String)
  | refinalizeWaiting

/-- The records to finalize after an event was handled. -/
def toFinalize : Except Error (Option Int) → List Int
  | .ok (some id) => [id]
  | _ => []

/-- The task of a call; only the handling of an event asks for more. -/
def Call.task : Call → Task
  | handle e => (Tracker.handle e).run.bind fun r => .done (toFinalize r)
  | finalize id => (Tracker.finalize id).run.bind fun _ => .done []
  | kill id user => (Tracker.kill id user).run.bind fun _ => .done []
  | refinalizeWaiting => Tracker.refinalizeWaiting.bind fun _ => .done []

/-- A world with the tasks in it, those that are over included, and the actions that were performed,
oldest first. -/
structure Pool (σ : Type) where
  world : World σ
  tasks : List Task := []
  performed : List Action := []

/-- What can happen next: a call, a step of the task at a place, or something outside. -/
inductive Move (σ : Type) where
  | call (c : Call)
  | advance (i : Nat)
  | elapse (outside : σ)

namespace Pool

variable {σ : Type}

/-- The pool in which a tracker starts over a store. -/
def fresh (store : Store) (outside : σ) : Pool σ :=
  { world := { store, outside } }

/-- The record of an identifier. -/
def record? (p : Pool σ) (id : Int) : Option Container :=
  p.world.store.get? id

/-- How often the finalizer was called for the record of an identifier. -/
def calls (p : Pool σ) (id : Int) : Nat :=
  p.performed.countP (Action.finalizes id)

/-- Whether all tasks are over. -/
def isQuiet (p : Pool σ) : Bool :=
  p.tasks.all isOver

/-- The pool after the next step of the task at a place. A task that is done starts the
finalizations that it asks for. -/
def advance? (s : Surroundings σ) (p : Pool σ) (i : Nat) : Option (Pool σ) :=
  match p.tasks[i]? with
  | none | some (.done []) => none
  | some (.done ids) =>
    some { p with tasks := p.tasks.set i (.done []) ++ ids.map fun id => (Call.finalize id).task }
  | some (.step action next) =>
    ((Routine.step action next).advance? s p.world).map fun (task, world) =>
      { world, tasks := p.tasks.set i task, performed := p.performed ++ [action] }

/-- The pool after a move, if the move can be made. -/
def move? (s : Surroundings σ) (p : Pool σ) : Move σ → Option (Pool σ)
  | .call c => some { p with tasks := p.tasks ++ [c.task] }
  | .advance i => p.advance? s i
  | .elapse outside => some { p with world := { p.world with outside } }

/-- The pool after some moves, if they can be made. -/
def follow? (s : Surroundings σ) : Pool σ → List (Move σ) → Option (Pool σ)
  | p, [] => some p
  | p, m :: rest => (p.move? s m).bind fun q => follow? s q rest

variable {s : Surroundings σ} {p q r : Pool σ}

/-- A run of two parts is one part after the other. -/
theorem follow?_append (s : Surroundings σ) (p : Pool σ) (earlier later : List (Move σ)) :
    p.follow? s (earlier ++ later) = (p.follow? s earlier).bind fun q => q.follow? s later := by
  induction earlier generalizing p with
  | nil => rfl
  | cons m rest ih =>
    simp only [List.cons_append, follow?]
    cases p.move? s m with
    | none => rfl
    | some q => exact ih q

theorem follow?_append_of_eq {earlier later : List (Move σ)} (he : p.follow? s earlier = some q)
    (hl : q.follow? s later = some r) : p.follow? s (earlier ++ later) = some r := by
  rw [follow?_append, he]
  exact hl

/-- What every move preserves, every run preserves. -/
theorem of_follow? {P : Pool σ → Prop} {moves : List (Move σ)}
    (hstep : ∀ p m q, P p → p.move? s m = some q → P q) (hp : P p)
    (h : p.follow? s moves = some q) : P q := by
  induction moves generalizing p with
  | nil =>
    obtain rfl : p = q := Option.some.inj h
    exact hp
  | cons m rest ih =>
    obtain ⟨p', hm, hr⟩ := Option.bind_eq_some_iff.1 h
    exact ih (hstep p m p' hp hm) hr

/-- The step of a task hands over to finalizations, or performs an action that can happen. -/
theorem advance?_cases {i : Nat} (h : p.advance? s i = some q) :
    (∃ ids, p.tasks[i]? = some (.done ids) ∧ q = { p with
      tasks := p.tasks.set i (.done []) ++ ids.map fun id => (Call.finalize id).task }) ∨
    (∃ action next, p.tasks[i]? = some (.step action next) ∧ p.world.ready action = true ∧
      q = { world := (s.perform p.world action).2,
            tasks := p.tasks.set i (next (s.perform p.world action).1),
            performed := p.performed ++ [action] }) := by
  unfold advance? at h
  split at h
  · cases h
  · cases h
  · next ids hne hi => exact .inl ⟨ids, hi, (Option.some.inj h).symm⟩
  · next action next hi =>
    refine .inr ⟨action, next, hi, ?_⟩
    rw [Routine.advance?_step] at h
    by_cases hready : p.world.ready action = true
    · rw [if_pos hready] at h
      exact ⟨hready, (Option.some.inj h).symm⟩
    · rw [if_neg hready] at h
      cases h

end Pool

end Tracker

end Mooring
