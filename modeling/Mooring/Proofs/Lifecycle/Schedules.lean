import Mooring.Proofs.Lifecycle.Finalization
import Mooring.Proofs.Lifecycle.Finalizing

set_option autoImplicit false

/-!
# Finalizing at once or at the end

The events of a container can be processed one by one, so that the first exit finalizes it, or they
can all be recorded before it is finalized. Its terminal status is told from the history as it is by
then, and the two schedules see different histories: what is recorded after the first exit counts in
the second only. `Tracker.endsAlike_iff` says exactly for which events the container ends alike in
both, and `Tracker.ends_apart` gives two events for which it does not.
-/

namespace Mooring

namespace Container

variable {c d : Container} {e : ContainerEvent} {now : Instant}

/-! ## Records whose history is at its end -/

/-- Whether the history of a container leads to a terminal status, whatever its status is. -/
def isPastEnd (c : Container) : Bool :=
  (statusOf c.history).any fun r => r.1.isTerminal

theorem isPastEnd_of_append? (h : c.append? (.ofEvent now e) = some d) :
    d.isPastEnd = c.isPastEnd := by
  have hnext := statusOf_of_append? h
  cases hc : c.isPastEnd with
  | true =>
    obtain ⟨r, hr, ht⟩ := (Option.any_eq_true ..).1 hc
    rw [hr, nextStatus_of_inert ht rfl] at hnext
    unfold isPastEnd
    rw [hnext]
    exact ht
  | false =>
    by_contra hd
    obtain ⟨r, hr, ht⟩ := (Option.any_eq_true ..).1 (eq_true_of_ne_false hd)
    rcases isEnding_of_nextStatus (hnext.symm.trans hr) ht with hbefore | hending
    · unfold isPastEnd at hc
      rw [hbefore] at hc
      exact absurd ht (by simpa using hc)
    · rw [HistoryEntry.isEnding_of_ne_system (e := .ofEvent now e) nofun] at hending
      cases hending

/-- A record that gets an entry comes to its end with its history. -/
theorem isFinalized_of_append? {entry : HistoryEntry} (h : c.append? entry = some d)
    (hopen : c.isFinalized = false) : d.isFinalized = d.isPastEnd := by
  unfold isFinalized isPastEnd
  rw [status_of_append? h]
  cases statusOf d.history with
  | none => exact hopen
  | some r => rfl

/-- A record stays open when events are recorded, if its history is not at its end. -/
theorem Noted.isFinalized {new : List ContainerEvent} (h : c.Noted new d)
    (hopen : c.isFinalized = false) (hpast : c.isPastEnd = false) :
    d.isFinalized = false ∧ d.isPastEnd = false := by
  induction h with
  | refl c => exact ⟨hopen, hpast⟩
  | cons first rest ih =>
    have hd := (isPastEnd_of_append? first).trans hpast
    exact ih ((isFinalized_of_append? first hopen).trans hd) hd

/-- A record whose history is at its end comes to it with the next event, and stays there. -/
theorem Noted.isConcluded {new : List ContainerEvent} (h : c.Noted new d) {r : StatusReached}
    (hr : statusOf c.history = some r) (ht : r.1.isTerminal = true) :
    new = [] ∧ d = c ∨ d.IsConcluded ∧ d.status = r.1 := by
  induction h with
  | refl c => exact .inl ⟨rfl, rfl⟩
  | @cons c d d' e new now first rest ih =>
    have hd : statusOf d.history = some r := by
      rw [statusOf_of_append? first, hr, nextStatus_of_inert ht rfl]
    right
    rcases ih hd with ⟨-, rfl⟩ | hlater
    · have hstatus := isFaithful_of_append? first r hd
      exact ⟨⟨r, hd, ht, hstatus⟩, hstatus⟩
    · exact hlater

theorem isTerminal_verdictAfter (c : Container) (new : List ContainerEvent) :
    (c.verdictAfter new).isTerminal = true := by
  unfold verdictAfter
  split
  · rfl
  · split <;> rfl

/-! ## When both histories tell the same -/

/-- Whether events after an exit leave the verdict alone: the container was killed by then, or it is
not killed later and its exit code is known by then, or does not matter. -/
def ExitSettles (c : Container) (known late : List ContainerEvent) : Prop :=
  c.wasKilled = true ∨ (∃ e ∈ known, e.status = "kill") ∨
    (∀ e ∈ late, e.status ≠ "kill") ∧
      (c.taskCompleted = true ∨
        (c.exitCode? <|> known.findSome? ContainerEvent.exitCode?).isSome = true ∨
        late.findSome? ContainerEvent.exitCode? ≠ some "0")

theorem verdictAfter_eq_iff (c : Container) (known late : List ContainerEvent) :
    c.verdictAfter known = c.verdictAfter (known ++ late) ↔ c.ExitSettles known late := by
  have hcode : (c.exitCode? <|> (known ++ late).findSome? ContainerEvent.exitCode?) =
      ((c.exitCode? <|> known.findSome? ContainerEvent.exitCode?) <|>
        late.findSome? ContainerEvent.exitCode?) := by
    rw [List.findSome?_append]
    cases c.exitCode? <;> cases known.findSome? ContainerEvent.exitCode? <;> rfl
  unfold verdictAfter ExitSettles
  rw [hcode, List.any_append, ← Bool.or_assoc]
  by_cases hkilled : (c.wasKilled || known.any fun e => e.status = "kill") = true
  · have hknown : c.wasKilled = true ∨ ∃ e ∈ known, e.status = "kill" := by simpa using hkilled
    simp only [hkilled, Bool.true_or, if_true, true_iff]
    rcases hknown with h | h
    · exact .inl h
    · exact .inr (.inl h)
  · have hknown : ¬(c.wasKilled = true ∨ ∃ e ∈ known, e.status = "kill") := by simpa using hkilled
    rw [← or_assoc, or_iff_right hknown, eq_false_of_ne_true hkilled, Bool.false_or]
    by_cases hlate : ∃ e ∈ late, e.status = "kill"
    · -- a kill that comes later is one that was not known before
      have hany : late.any (fun e => e.status = "kill") = true := by simpa using hlate
      obtain ⟨e, he, hkill⟩ := hlate
      refine iff_of_false ?_ fun h => h.1 e he hkill
      rw [if_neg Bool.false_ne_true, hany, if_pos rfl]
      split <;> nofun
    · have hany : late.any (fun e => e.status = "kill") = false := by simpa using hlate
      have hnone : ∀ e ∈ late, e.status ≠ "kill" := fun e he hkill => hlate ⟨e, he, hkill⟩
      rw [if_neg Bool.false_ne_true, hany, if_neg Bool.false_ne_true, and_iff_right hnone]
      cases c.taskCompleted with
      | true => simp
      | false =>
        cases c.exitCode? <|> known.findSome? ContainerEvent.exitCode? with
        | some code => simp
        | none => by_cases hzero : late.findSome? ContainerEvent.exitCode? = some "0" <;> simp [hzero]

/-- There is only one first exit. -/
theorem first_exit_unique {early early' late late' : List ContainerEvent} {x x' : ContainerEvent}
    (h : early ++ x :: late = early' ++ x' :: late')
    (hearly : ∀ e ∈ early, HistoryEntry.eventEnds e.status = false)
    (hearly' : ∀ e ∈ early', HistoryEntry.eventEnds e.status = false)
    (hx : HistoryEntry.eventEnds x.status = true) (hx' : HistoryEntry.eventEnds x'.status = true) :
    early = early' ∧ x = x' ∧ late = late' := by
  induction early generalizing early' with
  | nil =>
    cases early' with
    | nil =>
      obtain ⟨hhead, htail⟩ := List.cons.inj h
      exact ⟨rfl, hhead, htail⟩
    | cons e rest =>
      obtain ⟨rfl, -⟩ := List.cons.inj h
      rw [hearly' x List.mem_cons_self] at hx
      cases hx
  | cons e rest ih =>
    obtain ⟨he, hrest⟩ := List.forall_mem_cons.1 hearly
    cases early' with
    | nil =>
      obtain ⟨rfl, -⟩ := List.cons.inj h
      rw [he] at hx'
      cases hx'
    | cons e' rest' =>
      obtain ⟨rfl, htail⟩ := List.cons.inj h
      obtain ⟨rfl, rfl, rfl⟩ := ih htail hrest (List.forall_mem_cons.1 hearly').2
      exact ⟨rfl, rfl, rfl⟩

/-- Whether a container ends alike, if it is finalized at its first exit or after all events. -/
def EndsAlike (c : Container) (events : List ContainerEvent) : Prop :=
  (c.isPastEnd = true ∧ c.unrecorded events ≠ []) ∨
  ∃ early x late, c.unrecorded events = early ++ x :: late ∧
    (∀ e ∈ early, HistoryEntry.eventEnds e.status = false) ∧
    HistoryEntry.eventEnds x.status = true ∧ c.ExitSettles (early ++ [x]) late

end Container

namespace Tracker

variable {σ : Type} {s : Surroundings σ} {w : World σ} {id : Int} {c d : Container}
  {e : ContainerEvent}

/-! ## Handling and processing one event -/

/-- Handling an event of a container refuses or records it, and answers with the record after an
exit. -/
theorem run_handle_container (hs : s.Saves) (hc : w.store.get? id = some c)
    (hlead : w.store.find? e.id = some id) :
    (c.append? (.ofEvent (s.now w.outside) e) = none ∧
      (handle (.container e)).run.run s w = (.ok none, w)) ∨
    (∃ d w', c.append? (.ofEvent (s.now w.outside) e) = some d ∧
      (handle (.container e)).run.run s w =
        (.ok (if HistoryEntry.eventEnds e.status then some id else none), w') ∧
      w.store.Becomes id d w'.store) := by
  have hrun := run_handle (e := .container e) s hlead hc rfl
  rcases run_record_of_saves hs hc (EngineEvent.container e).entry with
    ⟨hd, hr⟩ | ⟨d, w', hd, hr, hbecomes⟩
  · refine .inl ⟨hd, ?_⟩
    rw [hrun, run_bindJob, hr]
    rfl
  · refine .inr ⟨d, w', hd, ?_, hbecomes⟩
    rw [hrun, run_bindJob, hr]
    cases hends : HistoryEntry.eventEnds e.status <;> simp [afterEntry, hends] <;> rfl

/-! ## Processing one by one -/

variable {events : List ContainerEvent}

/-- The status of a container after a routine, if it has a record. -/
def statusAfter {α : Type} (s : Surroundings σ) (w : World σ) (id : Int) (t : Routine α) :
    Option Status :=
  ((t.run s w).2.store.get? id).map Container.status

/-- No event of a container that is at its end changes its status. -/
theorem statusAfter_processAll_of_isConcluded (hs : s.Saves) (hc : w.store.get? id = some c)
    (hended : c.IsConcluded) (hleads : ∀ e ∈ events, w.store.find? e.id = some id) :
    statusAfter s w id (processAll (events.map .container)) = some c.status := by
  induction events generalizing c w with
  | nil => exact congrArg (Option.map Container.status) hc
  | cons e rest ih =>
    obtain ⟨hlead, hrest⟩ := List.forall_mem_cons.1 hleads
    unfold statusAfter
    rw [List.map_cons, run_processAll_cons, run_process]
    rcases run_handle_container hs hc hlead with ⟨-, hr⟩ | ⟨d, w', hd, hr, hbecomes⟩
    · rw [hr]
      exact ih hc hended hrest
    · obtain ⟨hended', hstatus⟩ := hended.of_isInert hd rfl
      have hrest' : ∀ e ∈ rest, w'.store.find? e.id = some id :=
        fun e he => hbecomes.leads _ (hrest e he)
      rw [hr, ← hstatus]
      cases HistoryEntry.eventEnds e.status with
      | false => exact ih hbecomes.record hended' hrest'
      | true =>
        -- an exit is passed over
        simp only [if_true, run_finalize_of_isFinalized s hbecomes.record hended'.isFinalized]
        exact ih hbecomes.record hended' hrest'

/-- The first newly recorded exit gives a container its terminal status. -/
theorem run_processAll_of_not_isPastEnd (hs : s.Saves) (hf : s.Finalizes)
    (hc : w.store.get? id = some c) (hopen : c.isFinalized = false) (hpast : c.isPastEnd = false)
    (hleads : ∀ e ∈ events, w.store.find? e.id = some id) :
    (∃ status, statusAfter s w id (processAll (events.map .container)) = some status ∧
      status.isTerminal = false ∧
      ∀ e ∈ c.unrecorded events, HistoryEntry.eventEnds e.status = false) ∨
    ∃ early x late, c.unrecorded events = early ++ x :: late ∧
      (∀ e ∈ early, HistoryEntry.eventEnds e.status = false) ∧
      HistoryEntry.eventEnds x.status = true ∧
      statusAfter s w id (processAll (events.map .container)) =
        some (c.verdictAfter (early ++ [x])) := by
  induction events generalizing c w with
  | nil => exact .inl ⟨c.status, congrArg (Option.map Container.status) hc, hopen, nofun⟩
  | cons e rest ih =>
    obtain ⟨hlead, hrest⟩ := List.forall_mem_cons.1 hleads
    unfold statusAfter
    rw [List.map_cons, run_processAll_cons, run_process]
    rcases run_handle_container hs hc hlead with ⟨hd, hr⟩ | ⟨d, w', hd, hr, hbecomes⟩
    · rw [hr, Container.unrecorded_of_refused hd]
      exact ih hc hopen hpast hrest
    · have hnoted : c.Noted [e] d := .cons hd (.refl d)
      obtain ⟨hopen', hpast'⟩ := hnoted.isFinalized hopen hpast
      have hrest' : ∀ e ∈ rest, w'.store.find? e.id = some id :=
        fun e he => hbecomes.leads _ (hrest e he)
      rw [hr, Container.unrecorded_of_append? hd]
      cases hends : HistoryEntry.eventEnds e.status with
      | false =>
        rcases ih hbecomes.record hopen' hpast' hrest' with
          ⟨status, hafter, hstatus, hnone⟩ | ⟨early, x, late, hsplit, hearly, hx, hafter⟩
        · exact .inl ⟨status, hafter, hstatus, List.forall_mem_cons.2 ⟨hends, hnone⟩⟩
        · refine .inr ⟨e :: early, x, late, congrArg (e :: ·) hsplit,
            List.forall_mem_cons.2 ⟨hends, hearly⟩, hx, ?_⟩
          rw [List.cons_append, ← Container.verdictAfter_of_append? hd]
          exact hafter
      | true =>
        -- the record is finalized with the history that it has by now
        obtain ⟨ended, w'', now, hrun, hbecomes', hreached, hstatus⟩ :=
          run_finalize_open hs hf hbecomes.record hopen'
        have hconcluded : ended.IsConcluded :=
          ⟨_, hreached, terminalStatus_isTerminal d, hstatus⟩
        have hlater : ∀ e ∈ rest, w''.store.find? e.id = some id :=
          fun e he => hbecomes'.leads _ (hrest' e he)
        have hafter := statusAfter_processAll_of_isConcluded hs hbecomes'.record hconcluded hlater
        refine .inr ⟨[], e, _, rfl, nofun, hends, ?_⟩
        rw [List.nil_append, ← hnoted.terminalStatus, ← hstatus]
        simp only [if_true, hrun]
        exact hafter

/-- A container whose history is at its end comes to it with the first event that is recorded. -/
theorem statusAfter_processAll_of_isPastEnd (hs : s.Saves) (hc : w.store.get? id = some c)
    {r : StatusReached} (hr : statusOf c.history = some r) (ht : r.1.isTerminal = true)
    (hleads : ∀ e ∈ events, w.store.find? e.id = some id) :
    statusAfter s w id (processAll (events.map .container)) =
      some (if c.unrecorded events = [] then c.status else r.1) := by
  induction events generalizing w with
  | nil => exact congrArg (Option.map Container.status) hc
  | cons e rest ih =>
    obtain ⟨hlead, hrest⟩ := List.forall_mem_cons.1 hleads
    unfold statusAfter
    rw [List.map_cons, run_processAll_cons, run_process]
    rcases run_handle_container hs hc hlead with ⟨hd, hrun⟩ | ⟨d, w', hd, hrun, hbecomes⟩
    · rw [hrun, Container.unrecorded_of_refused hd]
      exact ih hc hrest
    · have hnoted : c.Noted [e] d := .cons hd (.refl d)
      obtain ⟨hended, hstatus⟩ := (hnoted.isConcluded hr ht).resolve_left nofun
      have hlater : ∀ e ∈ rest, w'.store.find? e.id = some id :=
        fun e he => hbecomes.leads _ (hrest e he)
      have hafter := statusAfter_processAll_of_isConcluded hs hbecomes.record hended hlater
      rw [hrun, Container.unrecorded_of_append? hd, if_neg (List.cons_ne_nil _ _), ← hstatus]
      cases HistoryEntry.eventEnds e.status with
      | false => exact hafter
      | true =>
        simp only [if_true, run_finalize_of_isFinalized s hbecomes.record hended.isFinalized]
        exact hafter

/-! ## Recording all, and finalizing after them -/

/-- Record events in order, and finalize a container after them. -/
def finalizeAfter (id : Int) (events : List EngineEvent) : Routine Unit := do
  let _ ← handleAll events
  let _ ← (finalize id).run

theorem run_handleAll_cons (s : Surroundings σ) (w : World σ) (event : EngineEvent)
    (rest : List EngineEvent) :
    ((handleAll (event :: rest)).run s w).2 =
      ((handleAll rest).run s ((handle event).run.run s w).2).2 := by
  show ((Routine.bind (handle event).run _).run s w).2 = _
  rw [Routine.run_bind]
  rcases (handle event).run.run s w with ⟨err | _ | id, w'⟩
  · rfl
  · rfl
  · show ((Routine.bind (handleAll rest) _).run s w').2 = _
    rw [Routine.run_bind]
    rfl

theorem run_handleAll (hs : s.Saves) (hc : w.store.get? id = some c)
    (hleads : ∀ e ∈ events, w.store.find? e.id = some id) :
    ∃ d, c.Noted (c.unrecorded events) d ∧
      ((handleAll (events.map .container)).run s w).2.store.get? id = some d := by
  induction events generalizing c w with
  | nil => exact ⟨c, .refl c, hc⟩
  | cons e rest ih =>
    obtain ⟨hlead, hrest⟩ := List.forall_mem_cons.1 hleads
    rw [List.map_cons, run_handleAll_cons]
    rcases run_handle_container hs hc hlead with ⟨hd, hr⟩ | ⟨d, w', hd, hr, hbecomes⟩
    · rw [hr, Container.unrecorded_of_refused hd]
      exact ih hc hrest
    · rw [hr, Container.unrecorded_of_append? hd]
      obtain ⟨d', hnoted, hget⟩ := ih hbecomes.record fun e he => hbecomes.leads _ (hrest e he)
      exact ⟨d', .cons hd hnoted, hget⟩

/-- A container that is still open after its events gets the terminal status that all of them
tell. -/
theorem statusAfter_finalizeAfter (hs : s.Saves) (hf : s.Finalizes)
    (hc : w.store.get? id = some c) (hleads : ∀ e ∈ events, w.store.find? e.id = some id) :
    ∃ d, c.Noted (c.unrecorded events) d ∧
      statusAfter s w id (finalizeAfter id (events.map .container)) =
        some (if d.isFinalized then d.status else c.verdictAfter (c.unrecorded events)) := by
  obtain ⟨d, hnoted, hget⟩ := run_handleAll hs hc hleads
  refine ⟨d, hnoted, ?_⟩
  have hrun : ((finalizeAfter id (events.map .container)).run s w).2 =
      ((finalize id).run.run s ((handleAll (events.map .container)).run s w).2).2 := by
    show ((Routine.bind (handleAll _) _).run s w).2 = _
    rw [Routine.run_bind]
    show ((Routine.bind (finalize id).run _).run s _).2 = _
    rw [Routine.run_bind]
    rfl
  unfold statusAfter
  rw [hrun]
  cases hfin : d.isFinalized with
  | true =>
    rw [run_finalize_of_isFinalized s hget hfin]
    exact congrArg (Option.map Container.status) hget
  | false =>
    obtain ⟨ended, w', now, hfinalize, hbecomes, -, hstatus⟩ := run_finalize_open hs hf hget hfin
    rw [hfinalize, ← hnoted.terminalStatus]
    exact (congrArg (Option.map Container.status) hbecomes.record).trans (congrArg some hstatus)

/-! ## The two schedules -/

/-- A container that has not come to its end ends alike if its events are processed one by one, and
if it is finalized after all of them are recorded, exactly when its first exit settles how it ends. -/
theorem endsAlike_iff (hs : s.Saves) (hf : s.Finalizes) (hc : w.store.get? id = some c)
    (hopen : c.isFinalized = false) (hleads : ∀ e ∈ events, w.store.find? e.id = some id) :
    statusAfter s w id (processAll (events.map .container)) =
        statusAfter s w id (finalizeAfter id (events.map .container)) ↔
      c.EndsAlike events := by
  obtain ⟨d, hnoted, hbatch⟩ := statusAfter_finalizeAfter hs hf hc hleads
  rw [hbatch]
  cases hpast : c.isPastEnd with
  | true =>
    obtain ⟨r, hr, ht⟩ := (Option.any_eq_true ..).1 hpast
    rw [statusAfter_processAll_of_isPastEnd hs hc hr ht hleads]
    rcases hnoted.isConcluded hr ht with ⟨hnone, rfl⟩ | ⟨hended, hstatus⟩
    · -- nothing is recorded, and only the second schedule finalizes
      have hdiffer : d.status ≠ d.verdictAfter [] := by
        intro h
        have hterminal := Container.isTerminal_verdictAfter d []
        rw [← h] at hterminal
        rw [Container.isFinalized, hterminal] at hopen
        cases hopen
      unfold Container.EndsAlike
      rw [hnone, if_pos rfl, hopen]
      refine iff_of_false (fun h => hdiffer (Option.some.inj h)) ?_
      rintro (⟨-, h⟩ | ⟨early, x, late, h, -⟩)
      · exact h rfl
      · simp at h
    · have hsome : c.unrecorded events ≠ [] := by
        intro hnone
        rw [hnone] at hnoted
        cases hnoted
        rw [hended.isFinalized] at hopen
        cases hopen
      rw [if_neg hsome, hended.isFinalized, if_pos rfl, hstatus]
      exact iff_of_true rfl (.inl ⟨hpast, hsome⟩)
  | false =>
    obtain ⟨hopen', -⟩ := hnoted.isFinalized hopen hpast
    rw [hopen', if_neg Bool.false_ne_true]
    have hnotPast : ¬(c.isPastEnd = true ∧ c.unrecorded events ≠ []) := by
      rw [hpast]
      exact fun h => Bool.false_ne_true h.1
    unfold Container.EndsAlike
    rw [or_iff_right hnotPast]
    rcases run_processAll_of_not_isPastEnd hs hf hc hopen hpast hleads with
      ⟨status, hinline, hstatus, hnone⟩ | ⟨early, x, late, hsplit, hearly, hx, hinline⟩
    · -- without an exit only the second schedule finalizes
      rw [hinline]
      refine iff_of_false (fun h => ?_) ?_
      · rw [Option.some.inj h, Container.isTerminal_verdictAfter] at hstatus
        cases hstatus
      · rintro ⟨early, x, late, hsplit, -, hx, -⟩
        rw [hnone x (by simp [hsplit])] at hx
        cases hx
    · have hjoined : early ++ x :: late = early ++ [x] ++ late := by simp
      rw [hinline, Option.some_inj, hsplit, hjoined, Container.verdictAfter_eq_iff]
      constructor
      · intro h
        exact ⟨early, x, late, hjoined.symm, hearly, hx, h⟩
      · rintro ⟨early', x', late', hsplit', hearly', hx', h⟩
        obtain ⟨rfl, rfl, rfl⟩ :=
          Container.first_exit_unique (hjoined.trans hsplit') hearly hearly' hx hx'
        exact h

/-- The world of one plain container that has not stopped. -/
def plainWorld : World Unit where
  store := Pool.racedStore
  outside := ()

/-- The container is killed, and dies. -/
def killThenDie : List ContainerEvent :=
  [⟨"kill", "c1", 0, 0, .empty⟩, ⟨"die", "c1", 0, 0, .ofPairs [("exitCode", "137")]⟩]

theorem finalizes_still : Surroundings.still.Finalizes :=
  fun _ _ => ⟨[], rfl⟩

theorem endsAlike_killThenDie :
    ∃ c, Surroundings.still.Saves ∧ Surroundings.still.Finalizes ∧
      plainWorld.store.get? 1 = some c ∧ c.isFinalized = false ∧
      (∀ e ∈ killThenDie, plainWorld.store.find? e.id = some 1) ∧
      (statusAfter .still plainWorld 1 (processAll (killThenDie.map .container)) =
        statusAfter .still plainWorld 1 (finalizeAfter 1 (killThenDie.map .container)) ↔
          c.EndsAlike killThenDie) ∧ c.EndsAlike killThenDie := by
  have hc : plainWorld.store.get? 1 = some (Pool.racedStore.records.head nofun) := rfl
  have hleads : ∀ e ∈ killThenDie, plainWorld.store.find? e.id = some 1 := by decide
  refine ⟨_, Surroundings.still_saves, finalizes_still, hc, rfl, hleads,
    endsAlike_iff Surroundings.still_saves finalizes_still hc rfl hleads, ?_⟩
  exact .inr ⟨[], _, _, rfl, nofun, rfl, .inr (.inl ⟨_, List.mem_cons_self, rfl⟩)⟩

/-- The container runs out of memory, and dies without an error. -/
def oomThenDie : List ContainerEvent :=
  [⟨"oom", "c1", 0, 0, .empty⟩, ⟨"die", "c1", 0, 0, .ofPairs [("exitCode", "0")]⟩]

/-- A container whose exit code is not known at its first exit can end in two ways. -/
theorem ends_apart :
    Surroundings.still.Saves ∧ Surroundings.still.Finalizes ∧
      ((plainWorld.store.get? 1).any fun c => !c.swarm && !c.isFinalized) = true ∧
      (∀ e ∈ oomThenDie, plainWorld.store.find? e.id = some 1) ∧
      (∃ e ∈ oomThenDie, HistoryEntry.eventEnds e.status = true) ∧
      statusAfter .still plainWorld 1 (processAll (oomThenDie.map .container)) = some .failed ∧
      statusAfter .still plainWorld 1 (finalizeAfter 1 (oomThenDie.map .container)) =
        some .complete := by
  refine ⟨Surroundings.still_saves, finalizes_still, rfl, by decide, by decide, ?_, ?_⟩
  · decide +kernel
  · decide +kernel

end Tracker

end Mooring
