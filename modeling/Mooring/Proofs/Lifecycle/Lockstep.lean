import Mooring.Proofs.Lifecycle.Likeness
import Mooring.Proofs.Store.Twins

set_option autoImplicit false

/-!
# Two runs in lockstep

A routine and another are run in surroundings of their own. They are in lockstep if they end with
related values whenever they start in twin worlds, and leave twin worlds. There is one rule for each
action by which a launch can tell surroundings apart, and rules to put routines and jobs together,
so that a job is in lockstep with another as soon as their parts are.

`Routine.Same` is about one pair of surroundings that save everything and differ in the clock alone.
Here the surroundings may answer differently and saves may fail.
-/

namespace Mooring

/-- The command without its environment. -/
def Resolved.bare (r : Resolved) : Resolved :=
  { r with environment := .empty }

/-- Whether two engines answer alike in related states, whatever the environments of the commands
they are given. -/
structure Engine.Matches {σ : Type} (R : σ → σ → Prop) (engine engine' : Engine σ) : Prop where
  call : ∀ call state state', R state state' →
    Paired Eq R (engine call state) (engine' call state')
  createContainer : ∀ r r' state state', r.bare = r'.bare → R state state' →
    Paired Eq R (engine (.createContainer r) state) (engine' (.createContainer r') state')
  createService : ∀ r r' state state', r.bare = r'.bare → R state state' →
    Paired Eq R (engine (.createService r) state) (engine' (.createService r') state')

/-- Whether two answers are the same failure, or values that may differ. -/
def FailAlike {ε α : Type} (r r' : Except ε α) : Prop :=
  r.map (fun _ => ()) = r'.map fun _ => ()

/-- Whether two surroundings cannot be told apart by a launch, except by the token that is issued
and the time. -/
structure Surroundings.Matches {σ : Type} (E : OrderedMap String → Prop) (R : σ → σ → Prop)
    (s s' : Surroundings σ) : Prop where
  shelf : s.shelf.Matches E R s'.shelf
  engine : Engine.Matches R s.engine s'.engine
  issueToken : ∀ user outside outside', R outside outside' →
    Paired FailAlike R (s.issueToken user outside) (s'.issueToken user outside')
  makeBuildDirectory : ∀ outside outside', R outside outside' →
    Paired Eq R (s.makeBuildDirectory outside) (s'.makeBuildDirectory outside')

/-- Whether two worlds have twin stores, and are related outside. -/
structure World.Twins {σ : Type} (E : OrderedMap String → Prop) (R : σ → σ → Prop)
    (w w' : World σ) : Prop where
  store : w.store.Twins E w'.store
  outside : R w.outside w'.outside

namespace World.Twins

variable {σ α : Type} {E : OrderedMap String → Prop} {R : σ → σ → Prop} {V : α → α → Prop}
  {w w' : World σ}

theorem afterOutside (hw : w.Twins E R w') {x x' : α × σ} (h : Paired V R x x') :
    Paired V (World.Twins E R) (w.afterOutside x) (w'.afterOutside x') :=
  ⟨h.answer, hw.store, h.rest⟩

theorem afterStore {x x' : Except StoreError α × Store × σ}
    (h : Paired Eq (Paired (Store.Twins E) R) x x') :
    Paired Eq (World.Twins E R) (w.afterStore x) (w'.afterStore x') :=
  ⟨h.answer, h.rest.answer, h.rest.rest⟩

/-- The record that a change left is there in both worlds or in neither. -/
theorem withRecord {x x' : Except StoreError Unit × World σ}
    (h : Paired Eq (World.Twins E R) x x') (id : Int) :
    Paired FailAlike (World.Twins E R) (World.withRecord id x) (World.withRecord id x') := by
  obtain ⟨r, w⟩ := x
  obtain ⟨r', w'⟩ := x'
  obtain ⟨rfl, hw⟩ := h
  cases r with
  | error e => exact ⟨rfl, hw⟩
  | ok answer =>
    have hget := hw.store.get? id
    unfold World.withRecord
    dsimp only at hget ⊢
    generalize w.store.get? id = o, w'.store.get? id = o' at hget ⊢
    cases hget with
    | none => exact ⟨rfl, hw⟩
    | some hc => exact ⟨rfl, hw⟩

end World.Twins

namespace Routine

variable {σ α β : Type} {E : OrderedMap String → Prop} {R : σ → σ → Prop}
  {s s' : Surroundings σ} {V : α → α → Prop} {W : β → β → Prop}

/-- Whether two routines lead twin worlds to twin worlds, with related values. -/
def Lockstep (E : OrderedMap String → Prop) (R : σ → σ → Prop) (s s' : Surroundings σ)
    (V : α → α → Prop) (t t' : Routine α) : Prop :=
  ∀ w w', w.Twins E R w' → Paired V (World.Twins E R) (t.run s w) (t'.run s' w')

theorem lockstep_done {a a' : α} (h : V a a') : Lockstep E R s s' V (.done a) (.done a') :=
  fun _ _ hw => ⟨h, hw⟩

theorem Lockstep.bind {t t' : Routine α} {f f' : α → Routine β} (h : Lockstep E R s s' V t t')
    (hf : ∀ a a', V a a' → Lockstep E R s s' W (f a) (f' a')) :
    Lockstep E R s s' W (t.bind f) (t'.bind f') := by
  intro w w' hw
  obtain ⟨hvalue, hworld⟩ := h w w' hw
  rw [run_bind, run_bind]
  exact hf _ _ hvalue _ _ hworld

/-! ## Actions -/

section Actions

variable (hs : s.Matches E R s')
include hs

theorem lockstep_issueToken (user : String) :
    Lockstep E R s s' FailAlike (ask (.issueToken user)) (ask (.issueToken user)) :=
  fun _ _ hw => hw.afterOutside (hs.issueToken user _ _ hw.outside)

theorem lockstep_makeBuildDirectory :
    Lockstep E R s s' Eq (ask .makeBuildDirectory) (ask .makeBuildDirectory) :=
  fun _ _ hw => hw.afterOutside (hs.makeBuildDirectory _ _ hw.outside)

theorem lockstep_engine (call : EngineCall) :
    Lockstep E R s s' Eq (ask (.engine call)) (ask (.engine call)) :=
  fun _ _ hw => hw.afterOutside (hs.engine.call call _ _ hw.outside)

theorem lockstep_createContainer {r r' : Resolved} (hr : r.bare = r'.bare) :
    Lockstep E R s s' Eq (ask (.engine (.createContainer r)))
      (ask (.engine (.createContainer r'))) :=
  fun _ _ hw => hw.afterOutside (hs.engine.createContainer r r' _ _ hr hw.outside)

theorem lockstep_createService {r r' : Resolved} (hr : r.bare = r'.bare) :
    Lockstep E R s s' Eq (ask (.engine (.createService r)))
      (ask (.engine (.createService r'))) :=
  fun _ _ hw => hw.afterOutside (hs.engine.createService r r' _ _ hr hw.outside)

theorem lockstep_insert {record record' : Instant → Container}
    (hrecord : ∀ now now', (record now).Twins E (record' now')) :
    Lockstep E R s s' Eq (ask (.insert record)) (ask (.insert record')) :=
  fun _ _ hw => World.Twins.afterStore (hw.store.insert hs.shelf hw.outside (hrecord _ _))

theorem lockstep_append (id : Int) {entry entry' : Instant → HistoryEntry}
    (hentry : ∀ now now', (entry now).timeless = (entry' now').timeless) :
    Lockstep E R s s' Eq (ask (.append id entry)) (ask (.append id entry')) :=
  fun _ _ hw => World.Twins.afterStore (hw.store.append hs.shelf hw.outside id (hentry _ _))

theorem lockstep_update (id : Int) {f : Container → Container}
    (hf : ∀ c c', c.Twins E c' → (f c).Twins E (f c')) :
    Lockstep E R s s' FailAlike (ask (.update id f)) (ask (.update id f)) :=
  fun _ _ hw =>
    World.Twins.withRecord (World.Twins.afterStore (hw.store.update hs.shelf hw.outside id hf)) id

end Actions

theorem lockstep_get (id : Int) :
    Lockstep E R s s' (Option.Rel (Container.Twins E)) (ask (.get id)) (ask (.get id)) :=
  fun _ _ hw => ⟨hw.store.get? id, hw⟩

/-! ## Jobs -/

theorem Lockstep.bindJob {j j' : Job α} {f f' : α → Job β}
    (h : Lockstep E R s s' (Agree V) j.run j'.run)
    (hf : ∀ a a', V a a' → Lockstep E R s s' (Agree W) (f a).run (f' a').run) :
    Lockstep E R s s' (Agree W) (j >>= f).run (j' >>= f').run := by
  refine Lockstep.bind h fun r r' hr => ?_
  rcases r with e | a <;> rcases r' with e' | a'
  · exact lockstep_done hr
  · exact hr.elim
  · exact hr.elim
  · exact hf a a' hr

theorem Lockstep.tryCatch {j j' : Job α} {f : Error → Job α}
    (h : Lockstep E R s s' (Agree V) j.run j'.run)
    (hf : ∀ e, Lockstep E R s s' (Agree V) (f e).run (f e).run) :
    Lockstep E R s s' (Agree V) (tryCatch j f).run (tryCatch j' f).run := by
  refine Lockstep.bind h fun r r' hr => ?_
  rcases r with e | a <;> rcases r' with e' | a'
  · obtain rfl : e = e' := hr
    exact hf e
  · exact hr.elim
  · exact hr.elim
  · exact lockstep_done hr

theorem Lockstep.ask {action : Action} {V : action.Answer → action.Answer → Prop}
    (h : Lockstep E R s s' V (ask action) (ask action)) :
    Lockstep E R s s' (Agree V) (Job.ask action).run (Job.ask action).run :=
  Lockstep.bind h fun _ _ hanswer => lockstep_done hanswer

/-- An action that is answered alike makes a job that ends alike. -/
theorem Lockstep.attempt {ε : Type} {t t' : Routine (Except ε α)} (wrap : ε → Error)
    (h : Lockstep E R s s' Eq t t') :
    Lockstep E R s s' (Agree Eq) (Job.attempt wrap t).run (Job.attempt wrap t').run := by
  refine Lockstep.bind h fun r r' hr => lockstep_done ?_
  subst hr
  cases r <;> rfl

/-- An action that fails alike makes a job that fails alike. -/
theorem Lockstep.attempt_failAlike {ε : Type} {t t' : Routine (Except ε α)} (wrap : ε → Error)
    (h : Lockstep E R s s' FailAlike t t') :
    Lockstep E R s s' (Agree fun _ _ => True) (Job.attempt wrap t).run
      (Job.attempt wrap t').run := by
  refine Lockstep.bind h fun r r' hr => lockstep_done ?_
  cases r <;> cases r' <;> cases hr
  · rfl
  · trivial

end Routine

end Mooring
