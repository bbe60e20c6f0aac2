import Mooring.Error
import Mooring.Lifecycle.Event

set_option autoImplicit false

/-!
# Routines

A routine is a program of atomic actions: one action at a time, each with an answer on which the
rest depends. Routines can be run to their end one after another, or step by step among others. A
routine that may fail is a `Job`.
-/

namespace Mooring

/-- An atomic action. Entries, records and events take the time at which the action happens. -/
inductive Action where
  | find (external : String)
  | get (id : Int)
  | withStatus (status : Status)
  | openServices
  | insert (record : Instant → Container)
  | append (id : Int) (entry : Instant → HistoryEntry)
  | update (id : Int) (change : Container → Container)
  | publish (event : Instant → LifecycleEvent)
  | lock (id : Int)
  | unlock (id : Int)
  | engine (call : EngineCall)
  | finalizer (record : Container)
  | clock
  | loadServer
  | saveCheckTime (time : Instant)
  | send (event : EngineEvent)
  | issueToken (user : String)
  | makeBuildDirectory

/-- What an action answers. The finalizer answers with the files it wrote, or with the causes of its
failure; sending answers whether anybody listens. -/
@[reducible] def Action.Answer : Action → Type
  | find _ => Option Int
  | get _ => Option Container
  | withStatus _ | openServices => List Container
  | insert _ => Except StoreError Int
  | append _ _ => Except StoreError (Option StatusChange)
  | update _ _ => Except StoreError Container
  | publish _ | lock _ | unlock _ => Unit
  | engine call => Except EngineError call.Answer
  | finalizer _ => Except (List String) (List String)
  | clock => Instant
  | loadServer => Except ServerError (Option Server)
  | saveCheckTime _ => Except ServerError Unit
  | send _ => Bool
  | issueToken _ => Except (List String) String
  | makeBuildDirectory => Except StoreError String

/-- A program of atomic actions that ends with a value. -/
inductive Routine (α : Type) where
  | done (value : α)
  | step (action : Action) (next : action.Answer → Routine α)

namespace Routine

variable {α β γ : Type}

/-- A routine followed by one that depends on its value. -/
def bind : Routine α → (α → Routine β) → Routine β
  | done a, f => f a
  | step action next, f => step action fun r => (next r).bind f

instance : Monad Routine where
  pure := done
  bind := bind

/-- The routine of one action. -/
def ask (action : Action) : Routine action.Answer :=
  step action done

@[simp] theorem done_bind (a : α) (f : α → Routine β) : (done a).bind f = f a :=
  rfl

@[simp] theorem bind_done (t : Routine α) : t.bind done = t := by
  induction t with
  | done a => rfl
  | step action next ih => simp only [bind, ih]

theorem bind_assoc (t : Routine α) (f : α → Routine β) (g : β → Routine γ) :
    (t.bind f).bind g = t.bind fun a => (f a).bind g := by
  induction t with
  | done a => rfl
  | step action next ih => simp only [bind, ih]

instance : LawfulMonad Routine :=
  LawfulMonad.mk' Routine (fun t => bind_done t) (fun _ _ => rfl) bind_assoc

end Routine

/-- A routine that may fail. -/
abbrev Job : Type → Type :=
  ExceptT Error Routine

namespace Job

variable {α : Type}

/-- The job of an action that answers with a value or an error. -/
def attempt {ε : Type} (wrap : ε → Error) (answer : Routine (Except ε α)) : Job α :=
  ExceptT.mk (answer >>= fun r => pure (r.mapError wrap))

/-- The job of an action that does not fail. -/
def ask (action : Action) : Job action.Answer :=
  ExceptT.lift (Routine.ask action)

/-- Append an entry to the history of a record. -/
def append (id : Int) (entry : Instant → HistoryEntry) : Job (Option StatusChange) :=
  attempt .store (Routine.ask (.append id entry))

/-- Change a record; the value is the changed record. -/
def update (id : Int) (change : Container → Container) : Job Container :=
  attempt .store (Routine.ask (.update id change))

/-- The record of an identifier, which has to be there. -/
def need (id : Int) : Job Container := do
  match ← ask (.get id) with
  | some c => return c
  | none => throw (.store (.notFound id))

/-- Ask the engine. -/
def engine (call : EngineCall) : Job call.Answer :=
  attempt .engine (Routine.ask (.engine call))

/-- Do a job while nobody else holds the lock of a record. -/
def locked (id : Int) (job : Job α) : Job α :=
  ExceptT.mk do
    Routine.ask (.lock id)
    let result ← job.run
    Routine.ask (.unlock id)
    return result

end Job

end Mooring
