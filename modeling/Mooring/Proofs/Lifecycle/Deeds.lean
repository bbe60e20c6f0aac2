import Mooring.Proofs.Lifecycle.Relay

set_option autoImplicit false

/-!
# What a routine asked the engine

The calls of the engine that are made in a run, each with its answer. `Routine.Runs` says of a
routine what it asks, how it ends and in which world, and has a rule for each way to put routines
together, so that a run of a job is derived from the runs of its parts.
-/

namespace Mooring

/-- An action and what it was answered. -/
structure Deed where
  action : Action
  answer : action.Answer

namespace Deed

/-- A call of the engine and its answer. -/
def ofCall (call : EngineCall) (answer : Except EngineError call.Answer) : Deed :=
  ⟨.engine call, answer⟩

/-- Whether the engine was called. -/
def isCall (d : Deed) : Bool :=
  match d.action with
  | .engine _ => true
  | _ => false

end Deed

/-- Whether an action is another one than a call of the engine. -/
def Action.IsCallFree : Action → Prop
  | .engine _ => False
  | _ => True

/-- Whether an action leaves the store alone. -/
def Action.SparesStore : Action → Prop
  | .insert _ | .append _ _ | .update _ _ => False
  | _ => True

namespace Routine

variable {σ α β : Type} {s : Surroundings σ} {w w' w'' : World σ} {t : Routine α}

/-- What a run does, in order. -/
def deeds (s : Surroundings σ) : Routine α → World σ → List Deed
  | done _, _ => []
  | step action next, w =>
    ⟨action, (s.perform w action).1⟩ ::
      (next (s.perform w action).1).deeds s (s.perform w action).2

/-- The calls of the engine in a run, in order. -/
def asked (s : Surroundings σ) (t : Routine α) (w : World σ) : List Deed :=
  (t.deeds s w).filter Deed.isCall

theorem deeds_bind (s : Surroundings σ) (t : Routine α) (f : α → Routine β) (w : World σ) :
    (t.bind f).deeds s w =
      t.deeds s w ++ (f (t.run s w).1).deeds s (t.run s w).2 := by
  induction t generalizing w with
  | done a => rfl
  | step action next ih => exact congrArg (_ :: ·) (ih _ _)

theorem asked_bind (s : Surroundings σ) (t : Routine α) (f : α → Routine β) (w : World σ) :
    (t.bind f).asked s w = t.asked s w ++ (f (t.run s w).1).asked s (t.run s w).2 := by
  unfold asked
  rw [deeds_bind, List.filter_append]

theorem asked_of_all (h : t.All Action.IsCallFree) (s : Surroundings σ) (w : World σ) :
    t.asked s w = [] := by
  induction t generalizing w with
  | done a => rfl
  | step action next ih =>
    have hcall : Deed.isCall ⟨action, (s.perform w action).1⟩ = false := by
      cases action <;> first | rfl | exact False.elim h.1
    unfold asked
    rw [deeds, List.filter_cons_of_neg (by simp [hcall])]
    exact ih _ (h.2 _) _

theorem store_perform (s : Surroundings σ) (w : World σ) {action : Action}
    (h : action.SparesStore) : (s.perform w action).2.store = w.store := by
  cases action with
  | insert record => exact False.elim h
  | append id entry => exact False.elim h
  | update id change => exact False.elim h
  | send event =>
    show (if w.listening then _ else _ : Bool × World σ).2.store = w.store
    split <;> rfl
  | _ => rfl

theorem store_of_all (h : t.All Action.SparesStore) (s : Surroundings σ) (w : World σ) :
    (t.run s w).2.store = w.store := by
  induction t generalizing w with
  | done a => rfl
  | step action next ih => exact (ih _ (h.2 _) _).trans (store_perform s w h.1)

/-- A run of a routine: the calls of the engine that it makes, how it ends and in which world. -/
structure Runs (s : Surroundings σ) (t : Routine α) (w : World σ) (calls : List Deed) (a : α)
    (w' : World σ) : Prop where
  run : t.run s w = (a, w')
  asked : t.asked s w = calls

theorem runs_of_all (hcalls : t.All Action.IsCallFree) (hstore : t.All Action.SparesStore)
    (s : Surroundings σ) (w : World σ) :
    ∃ a w', t.Runs s w [] a w' ∧ w'.store = w.store :=
  ⟨_, _, ⟨rfl, asked_of_all hcalls s w⟩, store_of_all hstore s w⟩

variable {calls more : List Deed}

theorem Runs.bind {a : α} {b : β} {f : α → Routine β} (h : t.Runs s w calls a w')
    (hf : (f a).Runs s w' more b w'') : (t.bind f).Runs s w (calls ++ more) b w'' := by
  constructor
  · rw [run_bind, h.run, hf.run]
  · rw [asked_bind, h.run, h.asked, hf.asked]

/-! ## Jobs -/

/-- A job goes on with the value of its first part. -/
theorem Runs.bindJob {j : Job α} {f : α → Job β} {a : α} {r : Except Error β}
    (h : j.run.Runs s w calls (.ok a) w') (hf : (f a).run.Runs s w' more r w'') :
    (j >>= f).run.Runs s w (calls ++ more) r w'' :=
  Runs.bind h hf

/-- A job ends where its first part fails. -/
theorem Runs.bindJob_error {j : Job α} {e : Error} (h : j.run.Runs s w calls (.error e) w')
    (f : α → Job β) : (j >>= f).run.Runs s w calls (.error e) w' := by
  have hrest : (Routine.done (.error e : Except Error β)).Runs s w' [] (.error e) w' := ⟨rfl, rfl⟩
  rw [← List.append_nil calls]
  exact Runs.bind h hrest

/-- A job that is given up does nothing more than its first part, or what follows its failure. -/
theorem Runs.tryCatch_ok {j : Job α} {a : α} (h : j.run.Runs s w calls (.ok a) w')
    (f : Error → Job α) : (tryCatch j f).run.Runs s w calls (.ok a) w' := by
  have hrest : (Routine.done (.ok a : Except Error α)).Runs s w' [] (.ok a) w' := ⟨rfl, rfl⟩
  rw [← List.append_nil calls]
  exact Runs.bind h hrest

theorem Runs.tryCatch_error {j : Job α} {f : Error → Job α} {e : Error} {r : Except Error α}
    (h : j.run.Runs s w calls (.error e) w') (hf : (f e).run.Runs s w' more r w'') :
    (tryCatch j f).run.Runs s w (calls ++ more) r w'' :=
  Runs.bind h hf

/-- A job of one call asks the engine that, and nothing happens to the store. -/
theorem runs_engine (s : Surroundings σ) (w : World σ) (call : EngineCall) :
    ∃ answer w', (Job.engine call).run.Runs s w [.ofCall call answer] (answer.mapError .engine) w' ∧
      w'.store = w.store :=
  ⟨(s.engine call w.outside).1, { w with outside := (s.engine call w.outside).2 }, ⟨rfl, rfl⟩, rfl⟩

end Routine

/-! ## How a job can fail -/

namespace Routine

variable {σ α β : Type} {Q : α → Prop}

/-- Whether every value of a routine is of a kind, whatever its actions are answered. -/
def Gives (Q : α → Prop) : Routine α → Prop
  | done a => Q a
  | step _ next => ∀ answer, (next answer).Gives Q

theorem gives_true (t : Routine α) : t.Gives fun _ => True := by
  induction t with
  | done a => trivial
  | step action next ih => exact ih

theorem Gives.bind {R : β → Prop} {t : Routine α} {f : α → Routine β} (h : t.Gives Q)
    (hf : ∀ a, Q a → (f a).Gives R) : (t.bind f).Gives R := by
  induction t with
  | done a => exact hf a h
  | step action next ih => exact fun answer => ih answer (h answer)

theorem Gives.run {t : Routine α} (h : t.Gives Q) (s : Surroundings σ) (w : World σ) :
    Q (t.run s w).1 := by
  induction t generalizing w with
  | done a => exact h
  | step action next ih => exact ih _ (h _) _

end Routine

namespace Job

variable {α β : Type} {P : Error → Prop}

/-- Whether every failure of a job is of a kind. -/
def FailsWith (P : Error → Prop) (j : Job α) : Prop :=
  j.run.Gives fun r => ∀ e, r = .error e → P e

theorem failsWith_pure (a : α) : FailsWith P (pure a : Job α) :=
  nofun

theorem failsWith_attempt {ε : Type} {wrap : ε → Error} (h : ∀ e, P (wrap e))
    (t : Routine (Except ε α)) : FailsWith P (attempt wrap t) := by
  refine Routine.Gives.bind (Routine.gives_true t) fun r _ e he => ?_
  cases r with
  | error e' =>
    cases he
    exact h e'
  | ok a => cases he

theorem FailsWith.bind {j : Job α} {f : α → Job β} (h : FailsWith P j)
    (hf : ∀ a, FailsWith P (f a)) : FailsWith P (j >>= f) := by
  refine Routine.Gives.bind h fun r hr => ?_
  cases r with
  | ok a => exact hf a
  | error e =>
    intro e' he
    cases he
    exact hr e rfl

end Job

end Mooring
