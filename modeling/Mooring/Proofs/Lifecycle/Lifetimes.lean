import Mooring.Proofs.Container.Document
import Mooring.Proofs.Lifecycle.Finalizing
import Mooring.Proofs.Lifecycle.Repertoire
import Mooring.Proofs.Store.Filing

set_option autoImplicit false

/-!
# Lifetimes over a directory

A lifetime opens the directory of the records, recovers, finalizes what waits and processes events,
and may be cut off after any action. Lifetimes follow one another over what the directory holds by
then (`Reached`), and what it held at first decides what may become of it: a directory without
containers that wait never comes to one that was left waiting twice (`Reached.isOnceMarked`).
-/

namespace Mooring

variable {σ α β : Type} {s : Surroundings σ} {w : World σ}

/-! ## Routines that are cut off -/

namespace Routine

/-- The world after some actions of a routine, or all if there are no more. -/
def cut (s : Surroundings σ) : Nat → Routine α → World σ → World σ
  | 0, _, w | _ + 1, done _, w => w
  | n + 1, step action next, w =>
    let (r, w) := s.perform w action
    (next r).cut s n w

/-- Whether every world that a routine comes through is a certain one. -/
def Throughout (s : Surroundings σ) (I : World σ → Prop) : Routine α → World σ → Prop
  | done _, w => I w
  | step action next, w =>
    I w ∧ (next (s.perform w action).1).Throughout s I (s.perform w action).2

variable {I J : World σ → Prop} {t : Routine α} {f : α → Routine β}

theorem Throughout.first (h : t.Throughout s I w) : I w := by
  cases t with
  | done a => exact h
  | step action next => exact h.1

theorem Throughout.last (h : t.Throughout s I w) : I (t.run s w).2 := by
  induction t generalizing w with
  | done a => exact h
  | step action next ih => exact ih _ h.2

/-- Wherever a routine is cut off, the world is such a one. -/
theorem Throughout.cut (h : t.Throughout s I w) (n : Nat) : I (t.cut s n w) := by
  induction n generalizing t w with
  | zero => exact h.first
  | succ n ih =>
    cases t with
    | done a => exact h
    | step action next => exact ih h.2

theorem Throughout.mono (h : t.Throughout s I w) (hIJ : ∀ w, I w → J w) : t.Throughout s J w := by
  induction t generalizing w with
  | done a => exact hIJ w h
  | step action next ih => exact ⟨hIJ w h.1, ih _ h.2⟩

theorem Throughout.bind (h : t.Throughout s I w)
    (hf : (f (t.run s w).1).Throughout s I (t.run s w).2) : (t.bind f).Throughout s I w := by
  induction t generalizing w with
  | done a => exact hf
  | step action next ih => exact ⟨h.1, ih _ h.2 hf⟩

/-- The same for jobs: an error ends the job. -/
theorem Throughout.bindJob {j : Job α} {f : α → Job β} (h : j.run.Throughout s I w)
    (hf : ∀ a, (j.run.run s w).1 = .ok a → (f a).run.Throughout s I (j.run.run s w).2) :
    (j >>= f).run.Throughout s I w := by
  refine Throughout.bind h ?_
  show (ExceptT.bindCont f (j.run.run s w).1).Throughout s I (j.run.run s w).2
  cases hr : (j.run.run s w).1 with
  | error e => exact h.last
  | ok a => exact hf a hr

/-- What every action of a routine leaves as it is stays so throughout. -/
theorem Throughout.of_all {P : Action → Prop} (ht : t.All P)
    (hP : ∀ w action, P action → I w → I (s.perform w action).2) (h : I w) :
    t.Throughout s I w := by
  induction t generalizing w with
  | done a => exact h
  | step action next ih => exact ⟨h, ih _ (ht.2 _) (hP w action ht.1 h)⟩

end Routine

/-! ## Records -/

namespace Container

variable {c d : Container}

/-- A record that reads back from its text, and was left waiting for another finalization at most
once. -/
structure IsOnceMarked (c : Container) : Prop where
  representable : c.IsRepresentable
  unmemoized : c.exitMemo = none
  once : c.history.countP HistoryEntry.marksWaiting ≤ 1

theorem IsOnceMarked.ofText? (h : c.IsOnceMarked) : ofText? c.text = some c := by
  have hsame : c.unmemoized = c := by
    have hmemo := h.unmemoized
    cases c
    cases hmemo
    rfl
  exact (readsBack_of_isRepresentable h.representable).trans (congrArg some hsame)

theorem countP_marksWaiting_of_not_wasRecovered (h : c.wasRecovered = false) :
    c.history.countP HistoryEntry.marksWaiting = 0 := by
  rw [wasRecovered_eq, List.any_eq_false] at h
  exact List.countP_eq_zero.2 fun e he hmarks => h e he hmarks

/-- A record that is left waiting was not left waiting before. -/
theorem IsOnceMarked.append? {e : HistoryEntry} (h : c.IsOnceMarked) (he : e.recorded.IsValid)
    (hmarks : e.marksWaiting = false ∨ c.wasRecovered = false) (hd : c.append? e = some d) :
    d.IsOnceMarked where
  representable := h.representable.append? he hd
  unmemoized := (exitMemo_of_append? hd).trans h.unmemoized
  once := by
    have honce := h.once
    rw [history_of_append? hd, List.countP_append, List.countP_singleton]
    rcases hmarks with hnot | hfirst
    · rw [hnot]
      exact honce
    · rw [countP_marksWaiting_of_not_wasRecovered hfirst]
      split <;> omega

end Container

/-! ## Surroundings that keep a directory -/

section Keeping

variable {dir : String} {view : σ → FileTree} {home : Int → Prop}

/-- Surroundings that keep records as files in a directory, with a clock that tells times of the
calendar and a finalizer that leaves the directory alone. -/
structure Surroundings.KeepsIn (dir : String) (view : σ → FileTree) (s : Surroundings σ) :
    Prop where
  shelf : Store.KeepsIn dir view s.shelf
  clock : ∀ outside, (s.now outside).IsValid
  finalizer : ∀ c outside, Store.Beside dir (view outside) (view (s.finalizer c outside).2)

/-- Whether the records, in the store and in its directory, were left waiting once at most. -/
def World.IsOnceMarked (dir : String) (view : σ → FileTree) (home : Int → Prop) (w : World σ) :
    Prop :=
  Store.Filing dir home Container.IsOnceMarked w.store (view w.outside)

namespace World

theorem IsOnceMarked.append (hs : s.KeepsIn dir view) (h : w.IsOnceMarked dir view home) (id : Int)
    {entry : Instant → HistoryEntry}
    (hentry : ∀ c now, w.store.get? id = some c → (entry now).recorded = now ∧
      ((entry now).marksWaiting = false ∨ c.wasRecovered = false)) :
    (s.perform w (.append id entry)).2.IsOnceMarked dir view home := by
  refine Store.Filing.append h hs.shelf fun c d hc hd => ?_
  obtain ⟨hrecorded, hmarks⟩ := hentry c (s.now w.outside) hc
  have hvalid : (entry (s.now w.outside)).recorded.IsValid := by
    rw [hrecorded]
    exact hs.clock w.outside
  have honce := (h.held c (Store.mem_of_get? hc)).append? hvalid hmarks hd
  exact ⟨honce, honce.ofText?⟩

theorem IsOnceMarked.update (hs : s.KeepsIn dir view) (h : w.IsOnceMarked dir view home) (id : Int)
    {change : Container → Container} (hchange : ∀ c, c.IsOnceMarked → (change c).IsOnceMarked) :
    (s.perform w (.update id change)).2.IsOnceMarked dir view home := by
  rw [Surroundings.snd_perform_update]
  refine Store.Filing.update h hs.shelf fun c hc => ?_
  exact ⟨hchange c hc, (hchange c hc).ofText?⟩

/-- The tracker marks no record. -/
theorem IsOnceMarked.perform (hs : s.KeepsIn dir view) (h : w.IsOnceMarked dir view home)
    {tasks : Int → ServiceTask → Prop} {action : Action} (haction : action.IsTracking tasks) :
    (s.perform w action).2.IsOnceMarked dir view home := by
  cases action with
  | append id entry =>
    exact h.append hs id fun _ now _ => ⟨(haction now).1, .inl (haction now).2⟩
  | update id change =>
    refine h.update hs id fun c hc => ?_
    obtain ⟨⟨hdatabaseId, hcommandId, hwrapperId, hstatusTime, hhistory⟩, hmemo, honce⟩ := hc
    rcases haction with ⟨t, -, rfl⟩ | ⟨paths, rfl⟩ <;>
      exact ⟨⟨hdatabaseId, hcommandId, hwrapperId, hstatusTime, hhistory⟩, hmemo, honce⟩
  | finalizer c =>
    exact Store.Filing.congr h ((hs.finalizer c w.outside).readsAlike h.stands h.legible) rfl
  | insert | openServices | engine | clock | loadServer | saveCheckTime | send | issueToken
  | makeBuildDirectory => exact haction.elim
  | _ => exact h

theorem IsOnceMarked.throughout (hs : s.KeepsIn dir view) (h : w.IsOnceMarked dir view home)
    {t : Routine α} (ht : t.All (Action.IsTracking fun _ _ => True)) :
    t.Throughout s (World.IsOnceMarked dir view home) w :=
  .of_all ht (fun _ _ haction hw => hw.perform hs haction) h

end World

end Keeping

/-! ## Recovery -/

namespace Recovery

open Tracker

variable {c d : Container} {r : Report} {orphans : List Container}

/-- The status that recovery leads an interrupted container to. -/
def statusFor (c : Container) : Status :=
  if c.wasRecovered then .failed else .waiting

theorem entryFor_eq (c : Container) :
    ∃ message, entryFor c = systemEntry (statusFor c) message := by
  unfold entryFor statusFor
  cases c.wasRecovered
  · exact ⟨some retryMessage, rfl⟩
  · exact ⟨some gaveUpMessage, rfl⟩

/-- The answer of recovery to what became of an entry. -/
def noteAnswer (r : Report) (c : Container) :
    Except StoreError (Option StatusChange) → Report
  | .error _ => { r with errors := r.errors ++ [c.databaseId] }
  | .ok _ =>
    if c.wasRecovered then { r with failed := r.failed ++ [c.databaseId] }
    else { r with retried := r.retried ++ [c.databaseId] }

theorem errors_noteAnswer_ok (r : Report) (c : Container) (change : Option StatusChange) :
    (noteAnswer r c (.ok change)).errors = r.errors := by
  show (if c.wasRecovered = true then _ else _ : Report).errors = _
  split <;> rfl

theorem recover_eq (r : Report) (c : Container) :
    recover r c = .step (.append c.databaseId (entryFor c)) fun answer =>
      .done (noteAnswer r c answer) := by
  show Routine.step _ _ = _
  congr 1
  funext answer
  rcases answer with err | change
  · rfl
  · show (if c.wasRecovered = true then _ else _ : Routine Report) = _
    unfold noteAnswer
    cases c.wasRecovered <;> rfl

/-- Recovering a container records its entry, or reports that it could not. -/
theorem run_recover (s : Surroundings σ) (hc : w.store.get? c.databaseId = some c) (r : Report) :
    (((recover r c).run s w).1.errors = r.errors ∧ ∃ d now, c.append? (entryFor c now) = some d ∧
      w.store.Becomes c.databaseId d ((recover r c).run s w).2.store) ∨
    (¬ s.Saves ∧ ((recover r c).run s w).1.errors = r.errors ++ [c.databaseId] ∧
      ((recover r c).run s w).2.store = w.store) := by
  have hrun : (recover r c).run s w =
      (noteAnswer r c (s.perform w (.append c.databaseId (entryFor c))).1,
        (s.perform w (.append c.databaseId (entryFor c))).2) := by
    rw [recover_eq]
    rfl
  -- an entry of the system has no time of the engine, and so is never a duplicate
  have hnew : c.append? (entryFor c (s.now w.outside)) ≠ none := by
    obtain ⟨message, hentry⟩ := entryFor_eq c
    rw [Ne, Container.append?_eq_none_iff, hentry, Container.records_of_externalTime rfl]
    nofun
  have hperform : s.perform w (.append c.databaseId (entryFor c)) =
      w.afterStore (w.store.append s.shelf c.databaseId (entryFor c (s.now w.outside)) w.outside) :=
    rfl
  rw [hrun, hperform]
  rcases Store.append_cases_of_get? s.shelf w.outside hc (entryFor c (s.now w.outside)) with
    ⟨hrefused, -⟩ | ⟨d, hd, -, hr⟩ | ⟨d, err, -, hsave, hr⟩
  · exact absurd hrefused hnew
  · rw [hr]
    exact .inl ⟨errors_noteAnswer_ok r c (some ⟨c.status, d.status⟩), d, _, hd,
      Store.becomes_put hc (Container.databaseId_of_append? hd)⟩
  · rw [hr]
    refine .inr ⟨fun hs => ?_, rfl, rfl⟩
    rw [hs d w.outside] at hsave
    cases hsave

/-- What recovery does to the records of interrupted containers. -/
structure Recovers (orphans : List Container) (store store' : Store) : Prop where
  others : ∀ id, (∀ c ∈ orphans, c.databaseId ≠ id) → store'.get? id = store.get? id
  recovered : ∀ c ∈ orphans, ∃ d now, c.append? (entryFor c now) = some d ∧
    store'.get? c.databaseId = some d

/-- Recovery gives every interrupted container its entry, unless it reports an error. -/
theorem run_foldlM_recover (s : Surroundings σ)
    (hget : ∀ c ∈ orphans, w.store.get? c.databaseId = some c)
    (hdistinct : orphans.Pairwise fun c d => c.databaseId ≠ d.databaseId) (r : Report) :
    ∃ failures, ((orphans.foldlM recover r).run s w).1.errors = r.errors ++ failures ∧
      (failures = [] → Recovers orphans w.store ((orphans.foldlM recover r).run s w).2.store) ∧
      (s.Saves → failures = []) := by
  induction orphans generalizing w r with
  | nil =>
    have hrun : (([] : List Container).foldlM recover r).run s w = (r, w) := rfl
    rw [hrun]
    exact ⟨[], (List.append_nil _).symm, fun _ => ⟨fun _ _ => rfl, List.forall_mem_nil _⟩,
      fun _ => rfl⟩
  | cons c rest ih =>
    obtain ⟨hc, hrest⟩ := List.forall_mem_cons.1 hget
    obtain ⟨hne, hdistinct⟩ := List.pairwise_cons.1 hdistinct
    have hrun : ((c :: rest).foldlM recover r).run s w =
        (rest.foldlM recover ((recover r c).run s w).1).run s ((recover r c).run s w).2 := by
      rw [List.foldlM_cons]
      exact Routine.run_bind s (recover r c) _ w
    rw [hrun]
    rcases run_recover s hc r with ⟨herrors, d, now, hd, hbecomes⟩ | ⟨hsaves, herrors, hstore⟩
    · -- the others are other records, so that each is found as it was
      have hlater : ∀ d ∈ rest, ((recover r c).run s w).2.store.get? d.databaseId = some d :=
        fun d hd => (hbecomes.others _ (hne d hd).symm).trans (hrest d hd)
      obtain ⟨failures, hfailures, hrecovers, hnone⟩ := ih hlater hdistinct ((recover r c).run s w).1
      refine ⟨failures, hfailures.trans (by rw [herrors]), fun hempty => ?_, hnone⟩
      obtain ⟨hothers, hrecovered⟩ := hrecovers hempty
      refine ⟨fun id hid => ?_, List.forall_mem_cons.2 ⟨⟨d, now, hd, ?_⟩, hrecovered⟩⟩
      · obtain ⟨hfirst, hid⟩ := List.forall_mem_cons.1 hid
        exact (hothers id hid).trans (hbecomes.others id hfirst.symm)
      · exact (hothers _ fun d hd => (hne d hd).symm).trans hbecomes.record
    · have hlater : ∀ d ∈ rest, ((recover r c).run s w).2.store.get? d.databaseId = some d := by
        rw [hstore]
        exact hrest
      obtain ⟨failures, hfailures, -, -⟩ := ih hlater hdistinct ((recover r c).run s w).1
      refine ⟨c.databaseId :: failures, ?_, nofun, fun hs => absurd hs hsaves⟩
      rw [hfailures, herrors, List.append_assoc]
      rfl

/-- The interrupted containers are those that are finalizing. -/
def orphansOf (store : Store) : List Container :=
  store.withStatus .finalizing

theorem run_run (s : Surroundings σ) (w : World σ) :
    run.run s w = ((orphansOf w.store).foldlM recover {}).run s w :=
  rfl

section Ordered

variable (hordered : w.store.Ordered)
include hordered

theorem get?_of_mem_orphansOf (hc : c ∈ orphansOf w.store) :
    w.store.get? c.databaseId = some c :=
  hordered.get?_of_mem (List.mem_of_mem_filter hc)

theorem pairwise_orphansOf :
    (orphansOf w.store).Pairwise fun c d => c.databaseId ≠ d.databaseId := by
  refine List.Pairwise.filter _ (hordered.imp fun {c d} hlt => ?_)
  omega

/-- Recovery reports no errors where every change is saved. Without errors the interrupted
containers have their entries, and nothing else has changed. -/
theorem run_recovers (s : Surroundings σ) :
    (s.Saves → (run.run s w).1.errors = []) ∧
      ((run.run s w).1.errors = [] → Recovers (orphansOf w.store) w.store (run.run s w).2.store) := by
  obtain ⟨failures, hfailures, hrecovers, hnone⟩ := run_foldlM_recover s
    (fun _ => get?_of_mem_orphansOf hordered) (pairwise_orphansOf hordered) {}
  rw [← run_run, show ({} : Report).errors = [] from rfl, List.nil_append] at hfailures
  rw [hfailures]
  exact ⟨hnone, hrecovers⟩

end Ordered

theorem Recovers.status {store store' : Store} (h : Recovers orphans store store')
    (hc : c ∈ orphans) : ∃ d, store'.get? c.databaseId = some d ∧ d.status = statusFor c ∧
      d.terminalStatus = c.terminalStatus := by
  obtain ⟨d, now, hd, hget⟩ := h.recovered c hc
  obtain ⟨message, hentry⟩ := entryFor_eq c
  rw [hentry] at hd
  exact ⟨d, hget, Container.isFaithful_of_append? hd _
    (Container.statusOf_of_append?_system hd rfl),
    Container.terminalStatus_of_append?_system hd rfl⟩

theorem statusFor_ne_finalizing (c : Container) : statusFor c ≠ .finalizing := by
  unfold statusFor
  split <;> nofun

/-- After recovery no container is finalizing. -/
theorem Recovers.settled {store store' : Store} (h : Recovers (orphansOf store) store store')
    (hordered' : store'.Ordered) (hc : c ∈ store'.records) : c.status ≠ .finalizing := by
  intro hstatus
  have hget := hordered'.get?_of_mem hc
  by_cases horphan : ∃ d ∈ orphansOf store, d.databaseId = c.databaseId
  · obtain ⟨d, hd, hid⟩ := horphan
    obtain ⟨d', hd', hstatus', -⟩ := h.status hd
    rw [hid, hget] at hd'
    cases hd'
    exact statusFor_ne_finalizing d (hstatus'.symm.trans hstatus)
  · -- its record is as it was, and it was interrupted
    have hbefore := (h.others c.databaseId fun d hd hid => horphan ⟨d, hd, hid⟩).symm.trans hget
    refine horphan ⟨c, ?_, rfl⟩
    exact List.mem_filter.2 ⟨Store.mem_of_get? hbefore, decide_eq_true hstatus⟩

/-- Where no container is finalizing, recovery does nothing and has nothing to report. -/
theorem run_of_settled (s : Surroundings σ) (h : ∀ c ∈ w.store.records, c.status ≠ .finalizing) :
    run.run s w = ({}, w) := by
  have hnone : orphansOf w.store = [] := by
    refine List.filter_eq_nil_iff.2 fun c hc => ?_
    simpa using h c hc
  rw [run_run, hnone]
  rfl

section Throughout

variable {dir : String} {view : σ → FileTree} {home : Int → Prop}

/-- Recovery marks only what was not marked before. -/
theorem throughout_foldlM_recover (hs : s.KeepsIn dir view) (h : w.IsOnceMarked dir view home)
    (hget : ∀ c ∈ orphans, w.store.get? c.databaseId = some c)
    (hdistinct : orphans.Pairwise fun c d => c.databaseId ≠ d.databaseId) (r : Report) :
    (orphans.foldlM recover r).Throughout s (World.IsOnceMarked dir view home) w := by
  induction orphans generalizing w r with
  | nil => exact h
  | cons c rest ih =>
    obtain ⟨hc, hrest⟩ := List.forall_mem_cons.1 hget
    obtain ⟨hne, hdistinct⟩ := List.pairwise_cons.1 hdistinct
    have happend : (s.perform w (.append c.databaseId (entryFor c))).2.IsOnceMarked dir view home := by
      refine h.append hs _ fun c' now hc' => ?_
      obtain rfl : c = c' := Option.some.inj (hc.symm.trans hc')
      unfold entryFor
      cases c.wasRecovered
      · exact ⟨rfl, .inr rfl⟩
      · exact ⟨rfl, .inl rfl⟩
    have hfirst : (recover r c).Throughout s (World.IsOnceMarked dir view home) w := by
      rw [recover_eq]
      exact ⟨h, happend⟩
    rw [List.foldlM_cons]
    -- what is recorded for the first is not recorded for the others
    refine hfirst.bind (ih hfirst.last (fun d hd => ?_) hdistinct _)
    rw [← hrest d hd, recover_eq]
    exact Store.get?_append_of_ne s.shelf w.outside _ (hne d hd).symm

theorem throughout_run (hs : s.KeepsIn dir view) (h : w.IsOnceMarked dir view home) :
    run.Throughout s (World.IsOnceMarked dir view home) w :=
  ⟨h, throughout_foldlM_recover hs h (fun _ => get?_of_mem_orphansOf h.ordered)
    (pairwise_orphansOf h.ordered) {}⟩

end Throughout

end Recovery

/-! ## Lifetimes -/

namespace Tracker

theorem tracking_refinalizeWaiting {tasks : Int → ServiceTask → Prop} :
    refinalizeWaiting.All (Action.IsTracking tasks) := by
  refine ⟨trivial, fun waiting => ?_⟩
  show (List.mapM (fun c : Container => (finalize c.databaseId).run.bind fun result =>
    Routine.done (c.databaseId, result)) waiting).All _
  induction waiting with
  | nil => trivial
  | cons c rest ih =>
    rw [List.mapM_cons]
    refine Routine.All.bind (Routine.All.bind (tracking_finalize c.databaseId) fun _ => trivial)
      fun _ => ?_
    exact Routine.All.bind ih fun _ => trivial

theorem tracking_processAll {tasks : Int → ServiceTask → Prop} {events : List EngineEvent}
    (h : ∀ id t, .task id t ∈ events → tasks id t) :
    (processAll events).All (Action.IsTracking tasks) := by
  induction events with
  | nil => trivial
  | cons e rest ih =>
    refine Routine.All.bind (tracking_process fun id t he => h id t ?_) fun _ => ?_
    · rw [he]
      exact List.mem_cons_self
    · exact ih fun id t ht => h id t (List.mem_cons_of_mem e ht)

end Tracker

/-- Take up what an earlier process left. The value is what was finalized. -/
def resume : Routine (List (Int × Except Error (Option Status))) := do
  let _ ← Recovery.run
  Tracker.refinalizeWaiting

/-- What a process does in its life. -/
def life (events : List EngineEvent) : Routine Unit := do
  let _ ← resume
  Tracker.processAll events

section Lifetimes

variable [FileTree.Listing] {dir : String} {view : σ → FileTree} {first files : FileTree}
  {home : Int → Prop}

/-- Whether a world is one of a process that opened a directory with some files. -/
def Lives (dir : String) (view : σ → FileTree) (files : FileTree) (w : World σ) : Prop :=
  ∃ (start : World σ) (s : Surroundings σ) (events : List EngineEvent) (n : Nat),
    Store.openIn dir files = (.ok start.store, view start.outside) ∧ s.KeepsIn dir view ∧
      w = (life events).cut s n start

/-- The worlds that are reached in any number of lifetimes over a directory, each of them cut off
anywhere. -/
inductive Reached (dir : String) (view : σ → FileTree) (first : FileTree) : World σ → Prop
  | begin {w : World σ} (h : Lives dir view first w) : Reached dir view first w
  | restart {v w : World σ} (before : Reached dir view first v)
      (h : Lives dir view (view v.outside) w) : Reached dir view first w

omit [FileTree.Listing] in
theorem throughout_life (hs : s.KeepsIn dir view) (h : w.IsOnceMarked dir view home)
    (events : List EngineEvent) :
    (life events).Throughout s (World.IsOnceMarked dir view home) w := by
  have hrecovery := Recovery.throughout_run hs h
  have hresume : resume.Throughout s (World.IsOnceMarked dir view home) w :=
    hrecovery.bind (hrecovery.last.throughout hs Tracker.tracking_refinalizeWaiting)
  exact hresume.bind (hresume.last.throughout hs
    (Tracker.tracking_processAll fun _ _ _ => trivial))

/-- In all lifetimes over a directory without containers that were left waiting, no container is left
waiting twice. -/
theorem Reached.isOnceMarked (hnames : ∀ name ∈ first.entries dir, Files.IsName name)
    (hfirst : ∀ c ∈ Store.recordsIn dir first, c.wasRecovered = false)
    (h : Reached dir view first w) : w.IsOnceMarked dir view (Store.IsFiled dir first) := by
  induction h with
  | begin h =>
    obtain ⟨start, s, events, n, hopen, hs, rfl⟩ := h
    refine (throughout_life hs (Store.filing_of_openIn hopen hnames fun c hc => ?_) events).cut n
    obtain ⟨name, -, hread⟩ := List.mem_filterMap.1 hc
    obtain ⟨-, text, -, htext⟩ := Store.recordIn?_eq_some_iff.1 hread
    obtain ⟨hrepresentable, hmemo⟩ := Container.isRepresentable_of_ofText? htext
    refine ⟨hrepresentable, hmemo, ?_⟩
    rw [Container.countP_marksWaiting_of_not_wasRecovered (hfirst c hc)]
    exact Nat.zero_le 1
  | restart before h ih =>
    obtain ⟨start, s, events, n, hopen, hs, rfl⟩ := h
    obtain ⟨store, hopen', hfiling, -⟩ := Store.Filing.openIn ih
    obtain ⟨hstore, hview⟩ := Prod.mk.inj (hopen.symm.trans hopen')
    cases hstore
    have hstart : start.IsOnceMarked dir view (Store.IsFiled dir first) := by
      unfold World.IsOnceMarked
      rw [hview]
      exact hfiling
    exact (throughout_life hs hstart events).cut n

end Lifetimes

end Mooring
