import Mooring.Lifecycle.Routine

set_option autoImplicit false

/-!
# The world of the routines

What routines act on: the store, the locks that are held, what was published and what waits to be
handled; and what surrounds it: the shelf of the store, the engine, the finalizer and the rest,
which share a state of their own. `perform` says what an action answers and changes.
-/

namespace Mooring

/-- What surrounds the routines, with a state `σ`. -/
structure Surroundings (σ : Type) where
  now : σ → Instant
  shelf : Shelf σ
  engine : Engine σ
  finalizer : Container → σ → Except (List String) (List String) × σ
  loadServer : σ → Except ServerError (Option Server)
  saveCheckTime : Instant → σ → Except ServerError Unit × σ
  issueToken : String → σ → Except (List String) String × σ
  makeBuildDirectory : σ → Except StoreError String × σ

/-- The world as it stands: published events and waiting ones are listed oldest first. -/
structure World (σ : Type) where
  store : Store
  outside : σ
  held : List Int := []
  published : List LifecycleEvent := []
  queue : List EngineEvent := []
  listening : Bool := true

variable {σ : Type}

namespace World

/-- The world after a change of the store. -/
def afterStore {α : Type} (w : World σ) : Except StoreError α × Store × σ →
    Except StoreError α × World σ
  | (r, store, outside) => (r, { w with store, outside })

/-- The world after something happened outside. -/
def afterOutside {α : Type} (w : World σ) : α × σ → α × World σ
  | (r, outside) => (r, { w with outside })

/-- The answer of a change with the record that it left. -/
def withRecord (id : Int) : Except StoreError Unit × World σ → Except StoreError Container × World σ
  | (.error e, w) => (.error e, w)
  | (.ok (), w) =>
    match w.store.get? id with
    | some c => (.ok c, w)
    | none => (.error (.notFound id), w)

/-- Looking up the changed record changes nothing. -/
theorem snd_withRecord (id : Int) (r : Except StoreError Unit × World σ) :
    (withRecord id r).2 = r.2 := by
  obtain ⟨_ | ⟨⟩, w⟩ := r
  · rfl
  · cases hget : w.store.get? id with
    | none => simp [withRecord, hget]
    | some c => simp [withRecord, hget]

/-- Whether an action can happen now: a lock that is held cannot be taken. -/
def ready (w : World σ) : Action → Bool
  | .lock id => !w.held.contains id
  | _ => true

end World

/-- What an action answers, and the world after it. -/
def Surroundings.perform (s : Surroundings σ) (w : World σ) :
    (action : Action) → action.Answer × World σ
  | .find external => (w.store.find? external, w)
  | .get id => (w.store.get? id, w)
  | .withStatus status => (w.store.withStatus status, w)
  | .openServices => (w.store.openServices, w)
  | .insert record => w.afterStore (w.store.insert s.shelf (record (s.now w.outside)) w.outside)
  | .append id entry => w.afterStore (w.store.append s.shelf id (entry (s.now w.outside)) w.outside)
  | .update id change =>
    World.withRecord id (w.afterStore (w.store.update s.shelf id change w.outside))
  | .publish event => ((), { w with published := w.published ++ [event (s.now w.outside)] })
  | .lock id => ((), { w with held := id :: w.held })
  | .unlock id => ((), { w with held := w.held.erase id })
  | .engine call => w.afterOutside (s.engine call w.outside)
  | .finalizer record => w.afterOutside (s.finalizer record w.outside)
  | .clock => (s.now w.outside, w)
  | .loadServer => (s.loadServer w.outside, w)
  | .saveCheckTime time => w.afterOutside (s.saveCheckTime time w.outside)
  | .send event =>
    if w.listening then (true, { w with queue := w.queue ++ [event] }) else (false, w)
  | .issueToken user => w.afterOutside (s.issueToken user w.outside)
  | .makeBuildDirectory => w.afterOutside (s.makeBuildDirectory w.outside)

/-- What a change of a record leaves is what it leaves of the store. -/
theorem Surroundings.snd_perform_update (s : Surroundings σ) (w : World σ) (id : Int)
    (change : Container → Container) :
    (s.perform w (.update id change)).2 =
      (w.afterStore (w.store.update s.shelf id change w.outside)).2 :=
  World.snd_withRecord id _

namespace Routine

variable {α β : Type}

/-- Run a routine to its end with nobody else at work. -/
def run (s : Surroundings σ) : Routine α → World σ → α × World σ
  | done a, w => (a, w)
  | step action next, w =>
    let (r, w) := s.perform w action
    (next r).run s w

/-- The next step of a routine, if it is not done and its action can happen now. -/
def advance? (s : Surroundings σ) (w : World σ) : Routine α → Option (Routine α × World σ)
  | done _ => none
  | step action next =>
    if w.ready action then
      let (r, w) := s.perform w action
      some (next r, w)
    else none

/-- A routine followed by another is run by running both. -/
theorem run_bind (s : Surroundings σ) (t : Routine α) (f : α → Routine β) (w : World σ) :
    (t.bind f).run s w = (f (t.run s w).1).run s (t.run s w).2 := by
  induction t generalizing w with
  | done a => rfl
  | step action next ih => exact ih _ _

end Routine

end Mooring
