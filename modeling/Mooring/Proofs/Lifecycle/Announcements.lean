import Mooring.Proofs.Lifecycle.Interleaving
import Mooring.Proofs.Lifecycle.Protocol

set_option autoImplicit false

/-!
# What is told of the status of a record

The tracker changes the status of a record in one way only: it appends an entry, and when the status
moved, it publishes from where to where as the next thing it does. This is the protocol `telling`,
and every operation of the tracker follows it (`tells_task`). What a run of such a routine publishes
about a record are then the changes of its status along all the worlds of the run (`told_run`), so
that operations which are taken one after the other, whatever fails in them, publish a chain from
the status before the first to the status after the last (`play_tells`).
-/

namespace Mooring

/-! ## Changes along a list of values -/

section Changes

variable {α : Type}

/-- Whether changes lead from one value to another: each of them begins where the one before it
ended, and ends somewhere else. -/
inductive Leads : α → List (α × α) → α → Prop
  | nil {a : α} : Leads a [] a
  | cons {a b c : α} {rest : List (α × α)} (moved : a ≠ b) (onward : Leads b rest c) :
    Leads a ((a, b) :: rest) c

theorem Leads.append {a b c : α} {earlier later : List (α × α)} (h : Leads a earlier b)
    (h' : Leads b later c) : Leads a (earlier ++ later) c := by
  induction h with
  | nil => exact h'
  | cons moved _ ih => exact .cons moved (ih h')

variable [DecidableEq α]

/-- The changes along the values that follow a first one. -/
def changes : α → List α → List (α × α)
  | _, [] => []
  | a, b :: rest => if a = b then changes b rest else (a, b) :: changes b rest

theorem changes_append (a : α) (earlier later : List α) :
    changes a (earlier ++ later) = changes a earlier ++ changes (earlier.getLastD a) later := by
  induction earlier generalizing a with
  | nil => rfl
  | cons b rest ih =>
    rw [List.cons_append, changes, changes, List.getLastD_cons, ih]
    split <;> rfl

/-- The changes along a list of values lead to the last of them. -/
theorem leads_changes (a : α) (values : List α) :
    Leads a (changes a values) (values.getLastD a) := by
  induction values generalizing a with
  | nil => exact .nil
  | cons b rest ih =>
    rw [changes, List.getLastD_cons]
    split
    · next h =>
      subst h
      exact ih a
    · next h => exact .cons h (ih b)

end Changes

/-! ## Worlds on the way -/

namespace Routine

variable {σ α β : Type}

/-- The worlds after each action of a run. -/
def worlds (s : Surroundings σ) : Routine α → World σ → List (World σ)
  | done _, _ => []
  | step action next, w =>
    (s.perform w action).2 :: (next (s.perform w action).1).worlds s (s.perform w action).2

theorem getLastD_worlds (s : Surroundings σ) (t : Routine α) (w : World σ) :
    (t.worlds s w).getLastD w = (t.run s w).2 := by
  induction t generalizing w with
  | done a => rfl
  | step action next ih =>
    rw [worlds, List.getLastD_cons]
    exact ih _ _

end Routine

/-- The status of the record of an identifier, if there is one. -/
def Store.status? (s : Store) (id : Int) : Option Status :=
  (s.get? id).map Container.status

/-- The status of the record of an identifier in each of some worlds. -/
def statuses {σ : Type} (id : Int) (ws : List (World σ)) : List (Option Status) :=
  ws.map fun w => w.store.status? id

theorem statuses_append {σ : Type} (id : Int) (earlier later : List (World σ)) :
    statuses id (earlier ++ later) = statuses id earlier ++ statuses id later :=
  List.map_append

theorem getLastD_statuses {σ α : Type} (s : Surroundings σ) (t : Routine α) (w : World σ)
    (id : Int) : (statuses id (t.worlds s w)).getLastD (w.store.status? id) =
      (t.run s w).2.store.status? id := by
  rw [← t.getLastD_worlds s w]
  exact List.getLastD_map

/-! ## What is told -/

/-- From which status to which a record is told to have changed. -/
def LifecycleEvent.told? (id : Int) : LifecycleEvent → Option (Option Status × Option Status)
  | statusChanged other before after _ =>
    if other = id then some (some before, some after) else none
  | taskChanged .. => none

/-- The changes of the status of a record that are told by some events. -/
def told (id : Int) (events : List LifecycleEvent) : List (Option Status × Option Status) :=
  events.filterMap (LifecycleEvent.told? id)

theorem told_append (id : Int) (earlier later : List LifecycleEvent) :
    told id (earlier ++ later) = told id earlier ++ told id later :=
  List.filterMap_append

/-- Whether an action neither changes the status of a record nor tells of one. -/
def Action.IsQuiet : Action → Prop
  | .insert _ | .append _ _ => False
  | .update _ change => ∀ c, (change c).databaseId = c.databaseId ∧ (change c).status = c.status
  | .publish event => ∀ id now, (event now).told? id = none
  | _ => True

/-- How far the telling of a change is: there is a change of a record to tell of, or none. -/
abbrev Pending : Type :=
  Option (Int × StatusChange)

/-- What is still to be told of a record. -/
def Pending.of (id : Int) : Pending → List (Option Status × Option Status)
  | none => []
  | some (other, change) => if other = id then [(some change.before, some change.after)] else []

/-- A status that moves with an entry is told before anything else is done. -/
inductive Tells : Pending → (action : Action) → action.Answer → Pending → Prop
  | quiet {action : Action} {answer : action.Answer} (h : action.IsQuiet) :
    Tells none action answer none
  | fail {id : Int} {entry : Instant → HistoryEntry} {e : StoreError} :
    Tells none (.append id entry) (.error e) none
  | repeated {id : Int} {entry : Instant → HistoryEntry} :
    Tells none (.append id entry) (.ok none) none
  | stay {id : Int} {entry : Instant → HistoryEntry} {change : StatusChange}
      (h : change.moved = false) : Tells none (.append id entry) (.ok (some change)) none
  | move {id : Int} {entry : Instant → HistoryEntry} {change : StatusChange}
      (h : change.moved = true) :
    Tells none (.append id entry) (.ok (some change)) (some (id, change))
  | tell {id : Int} {change : StatusChange} {u : Unit} :
    Tells (some (id, change))
      (.publish (LifecycleEvent.statusChanged id change.before change.after)) u none

/-- The protocol of telling. -/
def telling : Protocol Pending :=
  ⟨fun _ _ _ => True, Tells⟩

/-! ## What one action does -/

section Performing

variable {σ : Type} {s : Surroundings σ} {w : World σ} {id : Int}

/-- An entry that is not recorded leaves the store as it was. -/
theorem store_append_of_not_recorded {entry : Instant → HistoryEntry}
    (h : ∀ change, (s.perform w (.append id entry)).1 ≠ .ok (some change)) :
    (s.perform w (.append id entry)).2.store = w.store := by
  rcases Store.append_cases s.shelf id w.store w.outside (entry (s.now w.outside)) with
    ⟨-, hr⟩ | ⟨c, -, -, hr⟩ | ⟨c, d, hc, hd, -, hr⟩ | ⟨c, d, err, -, -, -, hr⟩
  · exact congrArg (fun r => r.2.1) hr
  · exact congrArg (fun r => r.2.1) hr
  · exact absurd (congrArg Prod.fst hr) (h ⟨c.status, d.status⟩)
  · exact congrArg (fun r => r.2.1) hr

/-- An entry that is recorded changes the status of its record as it is answered, and no other. -/
theorem changes_append_status {entry : Instant → HistoryEntry} {change : StatusChange}
    (h : (s.perform w (.append id entry)).1 = .ok (some change)) (other : Int) :
    changes (w.store.status? other) [(s.perform w (.append id entry)).2.store.status? other] =
      if change.moved then Pending.of other (some (id, change)) else [] := by
  show changes _ [(Store.append s.shelf id (entry (s.now w.outside)) w.store w.outside).2.1.status?
    other] = _
  replace h : (Store.append s.shelf id (entry (s.now w.outside)) w.store w.outside).1 =
    .ok (some change) := h
  rcases Store.append_cases s.shelf id w.store w.outside (entry (s.now w.outside)) with
    ⟨-, hr⟩ | ⟨c, -, -, hr⟩ | ⟨c, d, hc, hd, -, hr⟩ | ⟨c, d, err, -, -, -, hr⟩
  · rw [hr] at h
    cases h
  · rw [hr] at h
    cases h
  · rw [hr] at h ⊢
    obtain rfl := Option.some.inj (Except.ok.inj h)
    unfold Store.status? Pending.of StatusChange.moved
    by_cases hid : id = other
    · subst hid
      rw [hc, Store.get?_put_of_append? hc hd]
      by_cases hmoved : c.status = d.status <;> simp [changes, hmoved]
    · have hne : d.databaseId ≠ other := by
        rw [Container.databaseId_of_append? hd, Store.databaseId_of_get? hc]
        exact hid
      rw [Store.get?_put_of_ne hne]
      simp [changes, hid]
  · rw [hr] at h
    cases h

/-- A change that keeps the status of a record changes no status. -/
theorem status?_update {change : Container → Container}
    (h : ∀ c, (change c).databaseId = c.databaseId ∧ (change c).status = c.status) (other : Int) :
    (s.perform w (.update id change)).2.store.status? other = w.store.status? other := by
  rw [Surroundings.snd_perform_update]
  show (Store.update s.shelf id change w.store w.outside).2.1.status? other = _
  unfold Store.status?
  by_cases hid : other = id
  · subst hid
    rcases Store.store_update_cases s.shelf other w.store w.outside change with hr | ⟨c, hc, hr⟩
    · rw [hr]
    · rw [hr, hc, Store.get?_put_of_eq ((h c).1.trans (Store.databaseId_of_get? hc))]
      exact congrArg some (h c).2
  · rw [Store.get?_update_of_ne s.shelf w.outside (fun c => (h c).1) hid]

theorem changes_self {α : Type} [DecidableEq α] (a : α) : changes a [a] = [] := by
  simp [changes]

/-- A quiet action changes no status. -/
theorem status?_perform {action : Action} (h : action.IsQuiet) (other : Int) :
    (s.perform w action).2.store.status? other = w.store.status? other := by
  cases action with
  | insert record => exact h.elim
  | append id entry => exact h.elim
  | update id change => exact status?_update h other
  | send event =>
    show (if w.listening then _ else _ : Bool × World σ).2.store.status? other = _
    split <;> rfl
  | _ => rfl

/-- A quiet action tells of no status. -/
theorem published_perform {action : Action} (h : action.IsQuiet) :
    ∃ news, (s.perform w action).2.published = w.published ++ news ∧
      ∀ other, told other news = [] := by
  cases action with
  | insert record => exact h.elim
  | append id entry => exact h.elim
  | publish event =>
    refine ⟨[event (s.now w.outside)], rfl, fun other => ?_⟩
    unfold told
    rw [List.filterMap_cons_none (h other (s.now w.outside)), List.filterMap_nil]
  | update id change =>
    refine ⟨[], ?_, fun _ => rfl⟩
    rw [Surroundings.snd_perform_update, List.append_nil]
    rfl
  | send event =>
    refine ⟨[], ?_, fun _ => rfl⟩
    rw [List.append_nil]
    show (if w.listening then _ else _ : Bool × World σ).2.published = _
    split <;> rfl
  | _ => exact ⟨[], (List.append_nil _).symm, fun _ => rfl⟩

/-- What is to be told before an action and what changes with it is told by it, or is to be told
after it. -/
theorem Tells.perform {i j : Pending} {action : Action}
    (h : Tells i action (s.perform w action).1 j) :
    ∃ news, (s.perform w action).2.published = w.published ++ news ∧ ∀ id,
      told id news ++ j.of id =
        i.of id ++ changes (w.store.status? id) [(s.perform w action).2.store.status? id] := by
  generalize hr : (s.perform w action).1 = r at h
  -- a status changes where its news becomes pending, and the news is told where it no longer is
  cases h with
  | quiet hquiet =>
    obtain ⟨news, hnews, htold⟩ := published_perform (s := s) (w := w) hquiet
    refine ⟨news, hnews, fun id => ?_⟩
    rw [status?_perform hquiet, changes_self, htold]
    rfl
  | fail =>
    refine ⟨[], (List.append_nil _).symm, fun id => ?_⟩
    rw [store_append_of_not_recorded (by rw [hr]; nofun), changes_self]
    rfl
  | repeated =>
    refine ⟨[], (List.append_nil _).symm, fun id => ?_⟩
    rw [store_append_of_not_recorded (by rw [hr]; nofun), changes_self]
    rfl
  | stay hstay =>
    refine ⟨[], (List.append_nil _).symm, fun id => ?_⟩
    rw [changes_append_status hr, hstay]
    rfl
  | move hmove =>
    refine ⟨[], (List.append_nil _).symm, fun id => ?_⟩
    rw [changes_append_status hr, hmove]
    rfl
  | @tell other change u =>
    refine ⟨[.statusChanged other change.before change.after (s.now w.outside)], rfl, fun id => ?_⟩
    show told id _ ++ [] = _ ++ changes (w.store.status? id) [w.store.status? id]
    rw [changes_self, List.append_nil, List.append_nil]
    unfold told LifecycleEvent.told? Pending.of
    by_cases hid : other = id <;> simp [hid]

end Performing

/-! ## Runs -/

section Running

variable {σ α β : Type} {t : Routine α}

/-- What a run publishes about a record, when the telling ends with it, is what was to be told
before it and then the changes of the status of the record along its worlds. -/
theorem told_run {Q : Pending → α → Prop} {i : Pending} (h : telling.Follows Q t i)
    (hQ : ∀ j a, Q j a → j = none) (s : Surroundings σ) (w : World σ) :
    ∃ news, (t.run s w).2.published = w.published ++ news ∧ ∀ id,
      told id news = i.of id ++ changes (w.store.status? id) (statuses id (t.worlds s w)) := by
  induction t generalizing i w with
  | done a =>
    obtain rfl := hQ i a h
    exact ⟨[], (List.append_nil _).symm, fun _ => rfl⟩
  | step action next ih =>
    obtain ⟨j, hleads, hnext⟩ := h (s.perform w action).1 trivial
    obtain ⟨news, hnews, htold⟩ := Tells.perform hleads
    obtain ⟨more, hmore, htold'⟩ := ih _ hnext (s.perform w action).2
    refine ⟨news ++ more, ?_, fun id => ?_⟩
    · rw [← List.append_assoc, ← hnews]
      exact hmore
    · rw [told_append, htold', ← List.append_assoc, htold, List.append_assoc]
      exact congrArg _ (changes_append _ [_] _).symm

/-- Whether a routine tells of every status that it moves, and of nothing else. -/
def Routine.IsTelling (t : Routine α) : Prop :=
  telling.Follows (fun i _ => i = none) t none

namespace Routine

theorem IsTelling.bind {f : α → Routine β} (h : t.IsTelling) (hf : ∀ a, (f a).IsTelling) :
    (t.bind f).IsTelling := by
  refine Protocol.Follows.bind h ?_
  rintro _ a rfl
  exact hf a

theorem IsTelling.bindJob {j : Job α} {f : α → Job β} (h : j.run.IsTelling)
    (hf : ∀ a, (f a).run.IsTelling) : (j >>= f).run.IsTelling := by
  refine Protocol.Follows.bindJob h ?_ fun i e hi => hi
  rintro _ a rfl
  exact hf a

theorem isTelling_done (a : α) : (done a).IsTelling :=
  rfl

theorem isTelling_step {action : Action} {next : action.Answer → Routine α} (h : action.IsQuiet)
    (hnext : ∀ answer, (next answer).IsTelling) : (step action next).IsTelling :=
  fun answer _ => ⟨none, .quiet h, hnext answer⟩

theorem isTelling_ask {action : Action} (h : action.IsQuiet) : (Job.ask action).run.IsTelling :=
  isTelling_step h fun _ => rfl

theorem isTelling_engine (call : EngineCall) : (Job.engine call).run.IsTelling :=
  isTelling_step trivial fun _ => rfl

end Routine

end Running

/-! ## The operations of the tracker -/

namespace Tracker

open Routine

theorem isTelling_record (id : Int) (entry : Instant → HistoryEntry) :
    (record id entry).run.IsTelling := by
  -- an entry leaves news pending just if it moved the status, and then the news comes next
  have happend : telling.Follows (fun i r => i = none ∧ (∀ c, r = .ok (some c) → c.moved = false) ∨
      ∃ c, r = .ok (some c) ∧ c.moved = true ∧ i = some (id, c))
      (Job.append id entry).run none := by
    intro answer _
    cases answer with
    | error e => exact ⟨none, .fail, .inl ⟨rfl, nofun⟩⟩
    | ok change =>
      cases change with
      | none => exact ⟨none, .repeated, .inl ⟨rfl, nofun⟩⟩
      | some c =>
        cases hmoved : c.moved with
        | false =>
          refine ⟨none, .stay hmoved, .inl ⟨rfl, fun d hd => ?_⟩⟩
          cases hd
          exact hmoved
        | true => exact ⟨some (id, c), .move hmoved, .inr ⟨c, rfl, hmoved, rfl⟩⟩
  refine Protocol.Follows.bindJob happend ?_ ?_
  · rintro i change (⟨rfl, hstays⟩ | ⟨c, hc, hmoved, rfl⟩)
    · cases change with
      | none => exact isTelling_done _
      | some c =>
        show telling.Follows _ (if c.moved then _ else _ : Job _).run _
        rw [hstays c rfl]
        exact isTelling_done _
    · cases hc
      show telling.Follows _ (if c.moved then _ else _ : Job _).run _
      rw [hmoved]
      exact fun u _ => ⟨none, .tell, rfl⟩
  · rintro i e (⟨rfl, -⟩ | ⟨c, hc, -⟩)
    · rfl
    · cases hc

theorem isTelling_update (id : Int) {change : Container → Container}
    (h : ∀ c, (change c).databaseId = c.databaseId ∧ (change c).status = c.status) :
    (Job.update id change).run.IsTelling :=
  isTelling_step h fun _ => rfl

theorem isTelling_handle (e : EngineEvent) : (handle e).run.IsTelling := by
  cases e with
  | container e =>
    refine .bindJob (isTelling_ask trivial) fun found => ?_
    cases found with
    | none => exact isTelling_done _
    | some id => exact .bindJob (isTelling_record id _) fun _ => isTelling_done _
  | task id t =>
    refine .bindJob (isTelling_record id _) fun change => ?_
    cases change with
    | none => exact isTelling_done _
    | some c =>
      refine .bindJob (isTelling_update id fun _ => ⟨rfl, rfl⟩) fun _ => ?_
      exact .bindJob (isTelling_ask fun _ _ => rfl) fun _ => isTelling_done _
  | missing id =>
    have hrecord : (do let _ ← record id (systemEntry .failed missingMessage)
                       return none : Job (Option Int)).run.IsTelling :=
      .bindJob (isTelling_record id _) fun _ => isTelling_done _
    refine .bindJob (isTelling_ask trivial) fun found => ?_
    cases found with
    | none => exact hrecord
    | some c =>
      show (if c.wasKilled then _ else _ : Job _).run.IsTelling
      split
      · exact isTelling_done _
      · exact hrecord

theorem isTelling_need (id : Int) : (Job.need id).run.IsTelling := by
  refine isTelling_step trivial fun found => ?_
  cases found <;> exact isTelling_done _

theorem isTelling_finalizeRecord (id : Int) (c : Container) :
    (finalizeRecord id c).run.IsTelling := by
  refine .bindJob (isTelling_record id _) fun _ => ?_
  refine .bindJob (isTelling_ask trivial) fun answer => ?_
  cases answer with
  | error causes => exact .bindJob (isTelling_record id _) fun _ => isTelling_done _
  | ok paths =>
    refine .bindJob (isTelling_update id fun _ => ⟨rfl, rfl⟩) fun c => ?_
    exact .bindJob (isTelling_record id _) fun _ => isTelling_done _

theorem isTelling_finalize (id : Int) : (finalize id).run.IsTelling := by
  have hbody : (do let c ← Job.need id
                   if c.isFinalized then return none
                   return some (← finalizeRecord id c) : Job (Option Status)).run.IsTelling := by
    refine .bindJob (isTelling_need id) fun c => ?_
    split
    · exact isTelling_done _
    · exact .bindJob (isTelling_finalizeRecord id c) fun _ => isTelling_done _
  refine isTelling_step trivial fun _ => ?_
  show (Routine.bind (ExceptT.run _) _).IsTelling
  -- the lock is given back whatever comes of it
  exact IsTelling.bind hbody fun _ => isTelling_step trivial fun _ => isTelling_done _

theorem isTelling_process (e : EngineEvent) : (process e).run.IsTelling := by
  refine .bindJob (isTelling_handle e) fun found => ?_
  cases found with
  | none => exact isTelling_done _
  | some id => exact isTelling_finalize id

theorem isTelling_killRunning (id : Int) (user : String) (c : Container) :
    (killRunning id user c).run.IsTelling := by
  unfold killRunning
  split
  · refine .bindJob (isTelling_engine _) fun _ => .bindJob (isTelling_record id _) fun _ => ?_
    refine .bindJob (isTelling_ask trivial) fun found => ?_
    cases found <;> exact isTelling_done _
  · refine .bindJob (isTelling_engine _) fun _ => .bindJob (isTelling_record id _) fun _ => ?_
    refine .bindJob (isTelling_finalize id) fun _ => ?_
    exact .bindJob (isTelling_engine _) fun _ => isTelling_done _
  · refine .bindJob (isTelling_record id _) fun _ => ?_
    exact .bindJob (isTelling_finalize id) fun _ => isTelling_done _

theorem isTelling_kill (id : Int) (user : String) : (kill id user).run.IsTelling := by
  refine .bindJob (isTelling_need id) fun c => ?_
  split
  · exact isTelling_done _
  · exact isTelling_killRunning id user c

theorem isTelling_refinalizeWaiting : refinalizeWaiting.IsTelling := by
  refine isTelling_step trivial fun waiting => ?_
  show (List.mapM (fun c : Container => (finalize c.databaseId).run.bind fun result =>
    Routine.done (c.databaseId, result)) waiting).IsTelling
  induction waiting with
  | nil => exact isTelling_done _
  | cons c rest ih =>
    rw [List.mapM_cons]
    refine IsTelling.bind (.bind (isTelling_finalize c.databaseId) fun _ => isTelling_done _) ?_
    exact fun _ => IsTelling.bind ih fun _ => isTelling_done _

/-! ## Operations one after another -/

/-- What the tracker can be asked for: a call, or to process an event. -/
inductive Operation where
  | call (c : Call)
  | process (event : EngineEvent)

/-- The task of an operation. -/
def Operation.task : Operation → Task
  | call c => c.task
  | process e => (Tracker.process e).run.bind fun _ => .done []

theorem isTelling_task (o : Operation) : o.task.IsTelling := by
  cases o with
  | call c =>
    cases c with
    | handle e => exact .bind (isTelling_handle e) fun _ => isTelling_done _
    | finalize id => exact .bind (isTelling_finalize id) fun _ => isTelling_done _
    | kill id user => exact .bind (isTelling_kill id user) fun _ => isTelling_done _
    | refinalizeWaiting => exact .bind isTelling_refinalizeWaiting fun _ => isTelling_done _
  | process e => exact .bind (isTelling_process e) fun _ => isTelling_done _

variable {σ : Type}

/-- A turn of the tracker: what is outside by then, and what it is asked for. -/
structure Turn (σ : Type) where
  outside : σ
  operation : Operation

namespace Turn

/-- The world in which a turn begins. -/
def start (turn : Turn σ) (w : World σ) : World σ :=
  { w with outside := turn.outside }

/-- The world after a turn. -/
def take (s : Surroundings σ) (turn : Turn σ) (w : World σ) : World σ :=
  (turn.operation.task.run s (turn.start w)).2

end Turn

/-- The world after some turns, one after another. -/
def play (s : Surroundings σ) (turns : List (Turn σ)) (w : World σ) : World σ :=
  turns.foldl (fun w turn => turn.take s w) w

/-- The worlds after each action of some turns. -/
def playWorlds (s : Surroundings σ) : List (Turn σ) → World σ → List (World σ)
  | [], _ => []
  | turn :: rest, w =>
    turn.operation.task.worlds s (turn.start w) ++ playWorlds s rest (turn.take s w)

/-- The events that a turn publishes tell of the changes of the status of every record along the
worlds of the turn. -/
theorem take_tells (s : Surroundings σ) (turn : Turn σ) (w : World σ) :
    ∃ news, (turn.take s w).published = w.published ++ news ∧ ∀ id,
      told id news = changes (w.store.status? id)
        (statuses id (turn.operation.task.worlds s (turn.start w))) ∧
      Leads (w.store.status? id) (told id news) ((turn.take s w).store.status? id) := by
  obtain ⟨news, hnews, htold⟩ :=
    told_run (isTelling_task turn.operation) (fun _ _ hj => hj) s (turn.start w)
  refine ⟨news, hnews, fun id => ⟨htold id, ?_⟩⟩
  have hleads := leads_changes (w.store.status? id)
    (statuses id (turn.operation.task.worlds s (turn.start w)))
  rw [htold id]
  exact getLastD_statuses s turn.operation.task (turn.start w) id ▸ hleads

/-- The events that are published by some turns tell, of every record, the changes of its status
along all worlds on the way. These lead from the status before the turns to the one after them. -/
theorem play_tells (s : Surroundings σ) (turns : List (Turn σ)) (w : World σ) :
    ∃ news, (play s turns w).published = w.published ++ news ∧ ∀ id,
      told id news = changes (w.store.status? id) (statuses id (playWorlds s turns w)) ∧
      Leads (w.store.status? id) (told id news) ((play s turns w).store.status? id) := by
  induction turns generalizing w with
  | nil => exact ⟨[], (List.append_nil _).symm, fun _ => ⟨rfl, .nil⟩⟩
  | cons turn rest ih =>
    obtain ⟨news, hnews, htold⟩ := take_tells s turn w
    obtain ⟨more, hmore, hrest⟩ := ih (turn.take s w)
    refine ⟨news ++ more, ?_, fun id => ?_⟩
    · rw [← List.append_assoc, ← hnews]
      exact hmore
    · obtain ⟨hfirst, hleads⟩ := htold id
      obtain ⟨hlater, hleads'⟩ := hrest id
      rw [told_append]
      refine ⟨?_, hleads.append hleads'⟩
      rw [hfirst, hlater, playWorlds, statuses_append, changes_append]
      exact congrArg (_ ++ changes · _)
        (getLastD_statuses s turn.operation.task (turn.start w) id).symm

example : told 1 (play .still [⟨(), .call (.finalize 1)⟩, ⟨(), .call (.kill 1 "u")⟩]
    { store := serviceStore, outside := () }).published =
    [(some .created, some .finalizing), (some .finalizing, some .failed)] := by
  decide +kernel

end Tracker

end Mooring
