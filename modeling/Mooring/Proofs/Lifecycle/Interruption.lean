import Mooring.Proofs.Container.Timeless
import Mooring.Proofs.Lifecycle.Lifetimes

set_option autoImplicit false

/-!
# Finalizations that are cut off

The processing of an event that ends a container may be cut off after any action. It leaves the
record as it was, at its end, or finalizing, and then what is recorded tells the terminal status
that the container was about to get (`Tracker.throughout_process`).
-/

namespace Mooring

variable {σ α : Type} {s : Surroundings σ} {w : World σ} {id : Int} {c d : Container}
  {e : EngineEvent} {V : Status → Prop}

/-! ## Records in the course of a finalization -/

/-- Whether a record is at its end, or is being finalized for the first time and will get a certain
terminal status. -/
def Container.EndsIn (V : Status → Prop) (c : Container) : Prop :=
  c.isFinalized = true ∨ c.status = .finalizing ∧ V c.terminalStatus ∧ c.wasRecovered = false

/-- Whether there is a certain record of an identifier. -/
def World.Has (id : Int) (A : Container → Prop) (w : World σ) : Prop :=
  ∃ c, w.store.get? id = some c ∧ A c

theorem World.Has.mono {A B : Container → Prop} (h : w.Has id A) (hAB : ∀ c, A c → B c) :
    w.Has id B := by
  obtain ⟨c, hc, hA⟩ := h
  exact ⟨c, hc, hAB c hA⟩

namespace Container

theorem wasRecovered_of_append? {entry : HistoryEntry} (h : c.append? entry = some d)
    (hmarks : entry.marksWaiting = false) : d.wasRecovered = c.wasRecovered := by
  rw [wasRecovered_eq, wasRecovered_eq, history_of_append? h, List.any_append, List.any_cons,
    hmarks, List.any_nil, Bool.or_false, Bool.or_false]

/-- An exit begins a finalization, unless the history is at its end. -/
theorem endsIn_of_signalsExit {entry : HistoryEntry} (h : c.append? entry = some d)
    (hexit : entry.signalsExit = true) (hfirst : c.wasRecovered = false)
    (hV : d.isFinalized = false → V d.terminalStatus) : d.EndsIn V := by
  have hmarks : entry.marksWaiting = false := by
    have horigin : entry.origin ≠ .system := by
      intro ho
      rw [HistoryEntry.signalsExit, ho] at hexit
      cases hexit
    simp [HistoryEntry.marksWaiting, horigin]
  by_cases hended : d.isFinalized = true
  · exact .inl hended
  · refine .inr ⟨?_, hV (eq_false_of_ne_true hended), (wasRecovered_of_append? h hmarks).trans hfirst⟩
    have hnext := statusOf_of_append? h
    unfold nextStatus at hnext
    rw [HistoryEntry.status?_of_signalsExit hexit] at hnext
    split at hnext
    · -- the status follows the history, which is not at its end
      next hterminal =>
      obtain ⟨r, hr, ht⟩ := (Option.any_eq_true ..).1 (Bool.and_eq_true_iff.1 hterminal).1
      have hd : d.status = r.1 := isFaithful_of_append? h r (hnext.trans hr)
      rw [isFinalized, hd] at hended
      exact absurd ht hended
    · exact isFaithful_of_append? h _ hnext

/-- An entry of this system for a terminal status ends a finalization. -/
theorem isFinalized_of_append?_system {status : Status} {message : Option String} {now : Instant}
    (h : c.append? (Tracker.systemEntry status message now) = some d)
    (hs : status.isTerminal = true) : d.isFinalized = true := by
  rw [isFinalized, isFaithful_of_append? h _ (statusOf_of_append?_system h rfl)]
  exact hs

/-- The entry that begins a finalization leads to no other end. -/
theorem endsIn_of_append?_finalizing {now : Instant}
    (h : c.append? (Tracker.systemEntry .finalizing none now) = some d)
    (hV : V c.terminalStatus) (hfirst : c.wasRecovered = false) : d.EndsIn V := by
  refine .inr ⟨isFaithful_of_append? h _ (statusOf_of_append?_system h rfl), ?_, ?_⟩
  · rw [terminalStatus_of_append?_system h rfl]
    exact hV
  · rw [wasRecovered_of_append? h rfl, hfirst]

end Container

/-! ## What is left once a finalization has begun -/

/-- Whether an action brings the record of an identifier to its end, if it changes its history. -/
def Action.Closes (id : Int) : Action → Prop
  | .append other entry => other = id ∧ ∃ (status : Status) (message : Option String),
      status.isTerminal = true ∧ entry = Tracker.systemEntry status message
  | .update other change => other = id ∧
      ((∃ t, change = Tracker.withTask t) ∨ ∃ paths, change = Container.withPaths paths)
  | .publish _ | .finalizer _ => True
  | _ => False

/-- A record that is appended to is as it was, or has the entry. -/
theorem has_append {A : Container → Prop} (s : Surroundings σ) (hc : w.store.get? id = some c)
    (hA : A c) {entry : Instant → HistoryEntry}
    (hgrown : ∀ d now, c.append? (entry now) = some d → A d) :
    (s.perform w (.append id entry)).2.Has id A := by
  show ∃ d, (w.store.append s.shelf id _ w.outside).2.1.get? id = some d ∧ A d
  rcases Store.store_append_cases s.shelf id w.store w.outside (entry (s.now w.outside)) with
    hr | ⟨c', d, hc', hd, hr⟩
  · rw [hr]
    exact ⟨c, hc, hA⟩
  · obtain rfl : c = c' := Option.some.inj (hc.symm.trans hc')
    rw [hr]
    exact ⟨d, Store.get?_put_of_append? hc hd, hgrown d _ hd⟩

theorem has_update {A : Container → Prop} (s : Surroundings σ) (h : w.Has id A)
    {change : Container → Container} (hid : ∀ c, (change c).databaseId = c.databaseId)
    (hchange : ∀ c, A c → A (change c)) :
    (s.perform w (.update id change)).2.Has id A := by
  obtain ⟨c, hc, hA⟩ := h
  rw [Surroundings.snd_perform_update]
  show ∃ d, (w.store.update s.shelf id change w.outside).2.1.get? id = some d ∧ A d
  rcases Store.store_update_cases s.shelf id w.store w.outside change with hr | ⟨c', hc', hr⟩
  · rw [hr]
    exact ⟨c, hc, hA⟩
  · obtain rfl : c = c' := Option.some.inj (hc.symm.trans hc')
    rw [hr]
    have hplace : (change c).databaseId = id := (hid c).trans (Store.databaseId_of_get? hc)
    exact ⟨change c, Store.get?_put_of_eq hplace, hchange c hA⟩

/-- A finalization that has begun stays one, or comes to its end. -/
theorem endsIn_perform (s : Surroundings σ) {action : Action} (haction : action.Closes id)
    (h : w.Has id (Container.EndsIn V)) : (s.perform w action).2.Has id (Container.EndsIn V) := by
  cases action with
  | append other entry =>
    obtain ⟨rfl, status, message, hterminal, rfl⟩ := haction
    obtain ⟨c, hc, hends⟩ := h
    exact has_append s hc hends fun d now hd =>
      .inl (Container.isFinalized_of_append?_system hd hterminal)
  | update other change =>
    obtain ⟨rfl, ⟨t, rfl⟩ | ⟨paths, rfl⟩⟩ := haction
    · exact has_update s h (fun _ => rfl) fun c hc => hc
    · exact has_update s h (fun _ => rfl) fun c hc => hc
  | publish | finalizer => exact h
  | find | get | withStatus | lock | unlock | insert | openServices | engine | clock | loadServer
  | saveCheckTime | send | issueToken | makeBuildDirectory => exact haction.elim

theorem throughout_closing (s : Surroundings σ) {t : Routine α} (ht : t.All (Action.Closes id))
    (h : w.Has id (Container.EndsIn V)) : t.Throughout s (World.Has id (Container.EndsIn V)) w :=
  .of_all ht (fun _ _ haction hw => endsIn_perform s haction hw) h

namespace Tracker

open Routine

/-! ## Processing an exit that is cut off -/

/-- Recording an entry leaves the record as it was, or with the entry. -/
theorem throughout_record {A : Container → Prop} (s : Surroundings σ)
    (hc : w.store.get? id = some c) (hA : A c) {entry : Instant → HistoryEntry}
    (hgrown : ∀ d now, c.append? (entry now) = some d → A d) :
    (record id entry).run.Throughout s (World.Has id A) w := by
  have hafter := has_append s hc hA hgrown
  have hfirst : (Job.append id entry).run.Throughout s (World.Has id A) w := ⟨⟨c, hc, hA⟩, hafter⟩
  refine hfirst.bindJob fun change _ => ?_
  cases change with
  | none => exact hafter
  | some change =>
    show (if change.moved then _ else _ : Job _).run.Throughout s _ _
    split
    · exact ⟨hafter, hafter⟩
    · exact hafter

/-- An entry that is recorded without an error is refused, or in the record. -/
theorem has_of_run_record {A : Container → Prop} (hc : w.store.get? id = some c)
    {entry : Instant → HistoryEntry} (hgrown : ∀ d now, c.append? (entry now) = some d → A d)
    {change : Option StatusChange} (h : ((record id entry).run.run s w).1 = .ok change) :
    (change = none ∧ c.append? (entry (s.now w.outside)) = none) ∨
      change.isSome = true ∧ ((record id entry).run.run s w).2.Has id A := by
  rcases Store.append_cases_of_get? s.shelf w.outside hc (entry (s.now w.outside)) with
    ⟨hrefused, hr⟩ | ⟨d, hd, -, hr⟩ | ⟨_, _, -, -, hr⟩
  · rw [run_record_refused hr] at h
    cases h
    exact .inl ⟨rfl, hrefused⟩
  · obtain ⟨published, hrecord⟩ := run_record_saved hr
    rw [hrecord] at h ⊢
    cases h
    exact .inr ⟨rfl, d, Store.get?_put_of_append? hc hd, hgrown d _ hd⟩
  · rw [run_record_failed hr] at h
    cases h

theorem closes_record {entry : Instant → HistoryEntry} (h : (Action.append id entry).Closes id) :
    (record id entry).run.All (Action.Closes id) :=
  all_record h fun _ => trivial

theorem closes_afterEntry (hid : e.target? w.store = some id) (change : StatusChange) :
    (afterEntry id e (some change)).run.All (Action.Closes id) :=
  all_afterEntry hid (fun t _ => ⟨rfl, .inl ⟨t, rfl⟩⟩) (fun _ => trivial) _

/-- A finalization that is cut off leaves the record as it was, finalizing, or at its end. -/
theorem throughout_finalizeRecord (s : Surroundings σ) (hc : w.store.get? id = some c)
    (hV : V c.terminalStatus) (hfirst : c.wasRecovered = false) (known : Container) :
    (finalizeRecord id known).run.Throughout s
      (World.Has id fun d => d = c ∨ d.EndsIn V) w := by
  have hbegin : ∀ d now, c.append? (systemEntry .finalizing none now) = some d → d.EndsIn V :=
    fun d now hd => Container.endsIn_of_append?_finalizing hd hV hfirst
  have hopening := throughout_record s (A := fun d => d = c ∨ d.EndsIn V) hc (.inl rfl)
    fun d now hd => .inr (hbegin d now hd)
  refine hopening.bindJob fun change hchange => ?_
  -- no system entry is refused: once it answers, the finalization has begun
  have hbegun : ((record id (systemEntry .finalizing)).run.run s w).2.Has id
      (Container.EndsIn V) := by
    rcases has_of_run_record hc hbegin hchange with ⟨-, hrefused⟩ | ⟨-, hhas⟩
    · rw [Container.append?_eq_none_iff, Container.records_of_externalTime rfl] at hrefused
      cases hrefused
    · exact hhas
  refine Throughout.mono (throughout_closing s ?_ hbegun) fun w hw => hw.mono fun d hd => .inr hd
  refine All.bindJob (.ask trivial) fun answer => ?_
  cases answer with
  | error causes =>
    exact All.bindJob (closes_record ⟨rfl, .failed, _, rfl, rfl⟩) fun _ => trivial
  | ok paths =>
    refine All.bindJob (j := Job.update id _) ⟨⟨rfl, .inr ⟨paths, rfl⟩⟩, fun _ => trivial⟩
      fun c => ?_
    exact All.bindJob (closes_record ⟨rfl, _, _, terminalStatus_isTerminal c, rfl⟩) fun _ => trivial

/-- A finalization of a record that is at its end leaves it there. -/
theorem throughout_finalize (s : Surroundings σ) (hc : w.store.get? id = some c)
    (h : c.isFinalized = true ∨ V c.terminalStatus ∧ c.wasRecovered = false) :
    (finalize id).run.Throughout s (World.Has id fun d => d = c ∨ d.EndsIn V) w := by
  have hhas : w.Has id fun d => d = c ∨ d.EndsIn V := ⟨c, hc, .inl rfl⟩
  -- the lock is taken and given back around what follows
  let held : World σ := { w with held := id :: w.held }
  have hneed : (Job.need id).run.Throughout s (World.Has id fun d => d = c ∨ d.EndsIn V) held := by
    have hget : s.perform held (.get id) = (some c, held) := by
      show (w.store.get? id, held) = _
      rw [hc]
    refine ⟨hhas, ?_⟩
    rw [hget]
    exact hhas
  have hinner : (Job.need id >>= fun c => do
      if c.isFinalized then return none
      return some (← finalizeRecord id c) : Job _).run.Throughout s
        (World.Has id fun d => d = c ∨ d.EndsIn V) held := by
    refine hneed.bindJob fun known hknown => ?_
    rw [run_need (w := held) s hc] at hknown ⊢
    cases hknown
    split
    · exact hhas
    · next hopen =>
      obtain ⟨hV, hfirst⟩ := h.resolve_left hopen
      exact (throughout_finalizeRecord (w := held) s hc hV hfirst c).bindJob fun _ _ =>
        (throughout_finalizeRecord (w := held) s hc hV hfirst c).last
  refine ⟨hhas, ?_⟩
  show (Routine.bind (ExceptT.run _) _).Throughout _ _ held
  exact hinner.bind ⟨hinner.last, hinner.last⟩

end Tracker

/-! ## The event that ends a container -/

namespace EngineEvent

/-- Whether an event brings a container to a terminal status, by what is in its history then. -/
inductive Ends (e : EngineEvent) (c : Container) : Status → Prop
  | ignored (hignored : e.isIgnored c = true) (hopen : c.isFinalized = false) :
      Ends e c c.terminalStatus
  | recorded {d : Container} {now : Instant} (hexit : e.reportsExit = true)
      (hd : c.append? (e.entry now) = some d) (hopen : d.isFinalized = false) :
      Ends e c d.terminalStatus

theorem signalsExit_entry (h : e.reportsExit = true) (now : Instant) :
    (e.entry now).signalsExit = true := by
  cases e with
  | container e => exact h
  | task id t => exact h
  | missing id => cases h

theorem isIgnored_of_reportsExit (h : e.reportsExit = true) (c : Container) :
    e.isIgnored c = false := by
  cases e with
  | missing id => cases h
  | _ => rfl

/-- The record with the entry of an event is the same up to times, whenever the entry is made. -/
theorem timeless_of_append? {now later : Instant} (h : c.append? (e.entry now) = some d)
    {d' : Container} (h' : c.append? (e.entry later) = some d') : d.timeless = d'.timeless := by
  have hentry : (e.entry now).timeless = (e.entry later).timeless := by
    cases e <;> rfl
  have hsame := Container.append?_alike (c := c) rfl hentry
  rw [h, h'] at hsame
  exact Option.some.inj hsame

/-- The record of an exit goes to its end, or was there. -/
theorem endsIn_of_append? (hexit : e.reportsExit = true) (hfirst : c.wasRecovered = false)
    {now : Instant} (hd : c.append? (e.entry now) = some d) : d.EndsIn (e.Ends c) :=
  Container.endsIn_of_signalsExit hd (signalsExit_entry hexit now) hfirst fun hopen =>
    .recorded hexit hd hopen

end EngineEvent

namespace Tracker

open Routine

/-- What follows the entry of an event answers with its record, if with one. -/
theorem eq_of_run_afterEntry (hid : e.target? w.store = some id) {change : Option StatusChange}
    {w' : World σ} {found : Int}
    (h : ((afterEntry id e change).run.run s w').1 = .ok (some found)) : found = id := by
  cases e with
  | container e =>
    have hanswer : Except.ok (if change.isSome = true ∧ HistoryEntry.eventEnds e.status = true
        then some id else none) = (Except.ok (some found) : Except Error (Option Int)) := h
    split at hanswer
    · cases hanswer
      rfl
    · cases hanswer
  | missing other => cases h
  | task other t =>
    cases change with
    | none => cases h
    | some change =>
      have hplace : ((place id t).run.run s w').1 = .ok (some found) := h
      unfold place at hplace
      rw [run_bindJob] at hplace
      cases hupdate : (Job.update id (withTask t)).run.run s w' with
      | mk answer w'' =>
        rw [hupdate] at hplace
        cases answer with
        | error err => cases hplace
        | ok d =>
          have hanswer : Except.ok (if t.isExited = true then some id else none) =
              (Except.ok (some found) : Except Error (Option Int)) := hplace
          split at hanswer
          · cases hanswer
            rfl
          · cases hanswer

section Cutting

variable (s : Surroundings σ) (hid : e.target? w.store = some id) (hc : w.store.get? id = some c)
  (hfirst : c.wasRecovered = false)
include hid hc hfirst

/-- The handling of an exit that is cut off leaves the record as it was, or on its way to its end;
if it answers with a record, that is the one. -/
theorem throughout_handle_exit (hexit : e.reportsExit = true) :
    (handle e).run.Throughout s (World.Has id fun d => d = c ∨ d.EndsIn (e.Ends c)) w ∧
      ∀ found, ((handle e).run.run s w).1 = .ok (some found) →
        found = id ∧ ((handle e).run.run s w).2.Has id (Container.EndsIn (e.Ends c)) := by
  have hopen := EngineEvent.isIgnored_of_reportsExit hexit c
  have hgrown : ∀ d now, c.append? (e.entry now) = some d → d.EndsIn (e.Ends c) :=
    fun d now hd => EngineEvent.endsIn_of_append? hexit hfirst hd
  have hrecord := throughout_record s (A := fun d => d = c ∨ d.EndsIn (e.Ends c)) hc (.inl rfl)
    fun d now hd => .inr (hgrown d now hd)
  have hafter : ∀ change, ((record id e.entry).run.run s w).1 = .ok (some change) →
      (afterEntry id e (some change)).run.Throughout s
        (World.Has id (Container.EndsIn (e.Ends c))) ((record id e.entry).run.run s w).2 := by
    intro change hchange
    -- the entry was recorded, so the record is on its way, and closing keeps it there
    have hhas := (has_of_run_record hc hgrown hchange).resolve_left fun h => nomatch h.1
    exact throughout_closing s (closes_afterEntry hid change) hhas.2
  constructor
  · have hrest : (record id e.entry >>= afterEntry id e).run.Throughout s
        (World.Has id fun d => d = c ∨ d.EndsIn (e.Ends c)) w := by
      refine hrecord.bindJob fun change hchange => ?_
      cases change with
      | none =>
        -- a duplicate is not followed by anything
        cases e <;> exact hrecord.last
      | some change =>
        exact Throughout.mono (hafter change hchange) fun w hw => hw.mono fun d hd => .inr hd
    have hhas : w.Has id fun d => d = c ∨ d.EndsIn (e.Ends c) := ⟨c, hc, .inl rfl⟩
    cases e with
    | missing other => cases hexit
    | task other t =>
      obtain rfl : other = id := Option.some.inj hid
      show (handleTask other t).run.Throughout s _ w
      rw [handleTask_eq]
      exact hrest
    | container e =>
      show (Job.ask (.find e.id) >>= _ : Job _).run.Throughout s _ w
      refine Throughout.bindJob ⟨hhas, hhas⟩ fun found hfound => ?_
      rw [run_find s hid] at hfound ⊢
      cases hfound
      exact hrest
  · intro found hfound
    rw [run_handle s hid hc hopen, run_bindJob] at hfound ⊢
    cases hr : (record id e.entry).run.run s w with
    | mk answer w' =>
      rw [hr] at hfound hafter
      cases answer with
      | error err => cases hfound
      | ok change =>
        cases change with
        | none => cases e <;> simp only [afterEntry] at hfound <;> cases hfound
        | some change =>
          exact ⟨eq_of_run_afterEntry hid hfound, (hafter change rfl).last⟩

/-- The processing of an event that may end a container, cut off anywhere, leaves the record as it
was, finalizing, or at its end. -/
theorem throughout_process (hends : e.reportsExit = true ∨ e.isIgnored c = true) :
    (process e).run.Throughout s (World.Has id fun d => d = c ∨ d.EndsIn (e.Ends c)) w := by
  rcases hends with hexit | hignored
  · obtain ⟨hhandle, hfound⟩ := throughout_handle_exit s hid hc hfirst hexit
    -- the finalization starts from the record with the entry, and ends as that record tells
    refine hhandle.bindJob fun answer hanswer => ?_
    cases answer with
    | none => exact hhandle.last
    | some found =>
      obtain ⟨rfl, d, hd, hends⟩ := hfound found hanswer
      have hopen : d.isFinalized = true ∨ e.Ends c d.terminalStatus ∧ d.wasRecovered = false :=
        hends.imp_right fun h => h.2
      refine Throughout.mono (throughout_finalize s hd hopen) fun w hw => hw.mono ?_
      rintro x (rfl | hx)
      · exact .inr hends
      · exact .inr hx
  · have hhas : w.Has id fun d => d = c ∨ d.EndsIn (e.Ends c) := ⟨c, hc, .inl rfl⟩
    have hhandle : (handle e).run.Throughout s
        (World.Has id fun d => d = c ∨ d.EndsIn (e.Ends c)) w := by
      cases e with
      | container e => cases hignored
      | task other t => cases hignored
      | missing other =>
        obtain rfl : other = id := Option.some.inj hid
        show (Job.ask (.get other) >>= _ : Job _).run.Throughout s _ w
        refine Throughout.bindJob ⟨hhas, hhas⟩ fun found hfound => ?_
        rw [run_get s hc] at hfound ⊢
        cases hfound
        simp only [show c.wasKilled = true from hignored]
        exact hhas
    refine hhandle.bindJob fun answer hanswer => ?_
    rw [run_handle_ignored s hid hc hignored] at hanswer ⊢
    cases hanswer
    refine throughout_finalize s hc ?_
    by_cases hopen : c.isFinalized = true
    · exact .inl hopen
    · exact .inr ⟨.ignored hignored (eq_false_of_ne_true hopen), hfirst⟩

end Cutting

end Tracker

end Mooring
