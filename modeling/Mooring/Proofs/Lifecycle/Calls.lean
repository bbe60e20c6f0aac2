import Mooring.Proofs.Lifecycle.Discipline

set_option autoImplicit false

/-!
# Every call of the tracker keeps to the rules

Seen from the record of one identifier, the handling of an event ends free or owes a finalization
that it asks for, a finalization pays what is owed, and a kill owes nothing (`keeps_task`,
`keeps_task_finalize_owing`). A call about another record leaves the phase alone.
-/

namespace Mooring.Tracker

variable {id : Int} {phase : Phase}

/-- A call ends free, or owes the finalization of the record and asks for it. -/
def Settles (id : Int) (phase : Phase) (ids : List Int) : Prop :=
  phase = .free ∨ phase = .owing ∧ id ∈ ids

/-! ## Handling events -/

/-- The same for what the handling of an event answers. -/
def Hands (id : Int) (phase : Phase) (r : Except Error (Option Int)) : Prop :=
  phase = .free ∨ phase = .owing ∧ r = .ok (some id)

theorem keeps_handleContainer (e : ContainerEvent) :
    Keeps id (Hands id) (handleContainer e).run .free := by
  refine Keeps.bindJob (Keeps.ask trivial rfl) ?_ fun p err ⟨hp, _⟩ => .inl hp
  rintro p found ⟨rfl, -⟩
  cases found with
  | none => exact .inl rfl
  | some other =>
    by_cases hends : HistoryEntry.eventEnds e.status = true
    · refine Keeps.bindJob (keeps_record_observed fun now h => nomatch h) ?_ ?_
      · rintro p change (rfl | ⟨rfl, rfl, c, hc⟩)
        · exact .inl rfl
        · obtain rfl := Except.ok.inj hc
          exact .inr ⟨rfl, by simp [hends]⟩
      · rintro p err (rfl | ⟨-, -, c, hc⟩)
        · exact .inl rfl
        · cases hc
    · -- an event that ends nothing owes nothing, and is not answered with the record
      have hexit : ∀ now, (HistoryEntry.ofEvent now e).signalsExit = false := fun now => by
        simpa [HistoryEntry.signalsExit, HistoryEntry.ofEvent] using hends
      refine Keeps.bindJob (keeps_record_silent (fun now h => nomatch h) hexit) ?_ ?_
      · rintro p change rfl
        exact .inl rfl
      · rintro p err rfl
        exact .inl rfl

theorem isTame_withTask (other : Int) (t : ServiceTask) : IsTame (.update other (withTask t)) :=
  fun _ => ⟨rfl, rfl, rfl⟩

/-- What follows once the entry of a task is recorded. -/
theorem keeps_afterTask {other : Int} {t : ServiceTask}
    (h : phase = .free ∨ phase = .owing ∧ other = id ∧ t.isExited = true) :
    Keeps id (Hands id)
      (do let _ ← Job.update other (withTask t)
          Job.ask (.publish (LifecycleEvent.taskChanged other t.taskId t.status))
          return if t.isExited then some other else none : Job (Option Int)).run phase := by
  apply Keeps.bindJob (Keeps.update (isTame_withTask other t))
  · rintro p c ⟨rfl, -⟩
    refine Keeps.bindJob (Keeps.ask trivial rfl) ?_ ?_
    · rintro p r ⟨rfl, -⟩
      rcases h with h | ⟨h, rfl, hexited⟩
      · exact .inl h
      · exact .inr ⟨h, by simp [hexited]⟩
    · rintro p err ⟨-, a, ha, -⟩
      cases ha
  · rintro p err ⟨rfl, hupdate⟩
    rcases h with h | ⟨h, rfl, -⟩
    · exact .inl h
    · -- the record is there, since its entry was just recorded
      obtain ⟨c, hc, -⟩ := hupdate rfl (by rw [h]; rfl)
      cases hc

theorem keeps_handleTask (other : Int) (t : ServiceTask) :
    Keeps id (Hands id) (handleTask other t).run .free := by
  by_cases hexited : t.isExited = true
  · refine Keeps.bindJob (keeps_record_observed fun now h => nomatch h) ?_ ?_
    · intro p change hp
      cases change with
      | none =>
        rcases hp with rfl | ⟨-, -, c, hc⟩
        · exact .inl rfl
        · cases hc
      | some c =>
        apply keeps_afterTask
        rcases hp with rfl | ⟨rfl, rfl, -⟩
        · exact .inl rfl
        · exact .inr ⟨rfl, rfl, hexited⟩
    · rintro p err (rfl | ⟨-, -, c, hc⟩)
      · exact .inl rfl
      · cases hc
  · have hphase : TaskPhase.ofState t.status ≠ .exited := fun h =>
      hexited (by simp [ServiceTask.isExited, ServiceTask.phase, h])
    have hexit : ∀ now, (HistoryEntry.ofTask now t).signalsExit = false := fun now => by
      simp [HistoryEntry.signalsExit, HistoryEntry.ofTask, hphase]
    refine Keeps.bindJob (keeps_record_silent (fun now h => nomatch h) hexit) ?_ ?_
    · rintro p change rfl
      cases change with
      | none => exact .inl rfl
      | some c => exact keeps_afterTask (.inl rfl)
    · rintro p err rfl
      exact .inl rfl

theorem keeps_handleMissing (other : Int) :
    Keeps id (Hands id) (handleMissing other).run .free := by
  have hrecord : Keeps id (Hands id)
      (do let _ ← record other (systemEntry .failed missingMessage)
          return none : Job (Option Int)).run .free := by
    apply Keeps.bindJob (keeps_record_missing other)
    · rintro p change rfl
      exact .inl rfl
    · rintro p err rfl
      exact .inl rfl
  refine Keeps.bindJob (Keeps.ask trivial rfl) ?_ fun p err ⟨hp, _⟩ => .inl hp
  rintro p found ⟨rfl, -⟩
  cases found with
  | none => exact hrecord
  | some c =>
    show Keeps id _ (if c.wasKilled then _ else _ : Job _).run _
    split
    · exact .inl rfl
    · exact hrecord

theorem keeps_handle (e : EngineEvent) : Keeps id (Hands id) (handle e).run .free := by
  cases e with
  | container e => exact keeps_handleContainer e
  | task other t => exact keeps_handleTask other t
  | missing other => exact keeps_handleMissing other

/-! ## Finalizing -/

theorem isTame_addPaths (other : Int) (paths : List String) :
    IsTame (.update other fun c => { c with logPaths := c.logPaths ++ paths }) :=
  fun _ => ⟨rfl, rfl, rfl⟩

/-- A record that was seen not to be at its end is brought to it. -/
theorem keeps_finalizeRecord {c : Container} (hc : c.databaseId = id) :
    Keeps id (fun p _ => p = .left) (finalizeRecord id c).run .cleared := by
  apply Keeps.bindJob keeps_record_opening
  · rintro p change ⟨rfl, -⟩
    refine ⟨trivial, fun r _ => ⟨.called, .call hc, ?_⟩⟩
    -- whether the finalizer fails only decides which entry ends the finalization
    cases r with
    | error causes =>
      apply Keeps.bindJob (keeps_record_ending rfl (failureMessage_ne _))
      · rintro p change ⟨rfl, -⟩
        rfl
      · rintro p err ⟨-, change, h⟩
        cases h
    | ok paths =>
      apply Keeps.bindJob (Keeps.update (isTame_addPaths id paths))
      · rintro p c ⟨rfl, -⟩
        refine Keeps.bindJob
          (keeps_record_ending (terminalStatus_isTerminal c) (terminalMessage_ne _ _)) ?_ ?_
        · rintro p change ⟨rfl, -⟩
          rfl
        · rintro p err ⟨-, change, h⟩
          cases h
      · rintro p err ⟨-, hupdate⟩
        obtain ⟨c, h, -⟩ := hupdate rfl rfl
        cases h
  · rintro p err ⟨-, change, h⟩
    cases h

/-- Finalizing another record leaves the phase alone. -/
theorem keeps_finalizeRecord_of_ne {other : Int} {c : Container} (hc : c.databaseId = other)
    (h : other ≠ id) : Keeps id (fun p _ => p = phase) (finalizeRecord other c).run phase := by
  refine Keeps.bindJob (keeps_record_of_ne h) ?_ fun p err hp => hp
  rintro p change rfl
  refine Keeps.bindJob (Keeps.ask trivial (by simp [touches, hc, h])) ?_ fun p err hp => hp.1
  rintro p r ⟨rfl, -⟩
  cases r with
  | error causes =>
    refine Keeps.bindJob (keeps_record_of_ne h) ?_ fun p err hp => hp
    rintro p change rfl
    rfl
  | ok paths =>
    refine Keeps.bindJob (Keeps.update (isTame_addPaths other paths)) ?_ fun p err hp => hp.1
    rintro p c ⟨rfl, -⟩
    refine Keeps.bindJob (keeps_record_of_ne h) ?_ fun p err hp => hp
    rintro p change rfl
    rfl

/-- A finalization takes the lock, and gives it back with nothing owed. -/
theorem keeps_finalize_of_eq (h : phase = .free ∨ phase = .owing) :
    Keeps id (fun p _ => p = .free) (finalize id).run phase := by
  refine ⟨trivial, fun r _ => ⟨.entered, .lock h, ?_⟩⟩
  have hbody : Keeps id (fun p _ => p = .left)
      (do let c ← Job.need id
          if c.isFinalized then return none
          return some (← finalizeRecord id c) : Job (Option Status)).run .entered := by
    constructor
    · trivial
    intro found hfound
    cases found with
    | none => exact ⟨.left, .skip (fun c hc => nomatch hc), rfl⟩
    | some c =>
      cases hfin : c.isFinalized with
      | true =>
        refine ⟨.left, .skip fun d hd => ?_, ?_⟩
        · obtain rfl := Option.some.inj hd
          exact hfin
        · show Keeps id _ (if c.isFinalized then _ else _ : Job _).run _
          rw [if_pos hfin]
          rfl
      | false =>
        refine ⟨.cleared, .clear hfin, ?_⟩
        show Keeps id _ (if c.isFinalized then _ else _ : Job _).run _
        rw [if_neg (by simp [hfin])]
        refine Keeps.bindJob (keeps_finalizeRecord (hfound c rfl)) ?_ fun p err hp => hp
        rintro p status rfl
        rfl
  show Keeps id _ (Routine.bind _ fun result => .step (.unlock id) fun _ => .done result) _
  -- the lock is given back whatever comes of it
  apply Keeps.bind hbody
  rintro p result rfl
  exact ⟨trivial, fun _ _ => ⟨.free, .unlock, rfl⟩⟩

theorem keeps_finalize_of_ne {other : Int} (h : other ≠ id) :
    Keeps id (fun p _ => p = phase) (finalize other).run phase := by
  refine Keeps.aside trivial (by simp [touches, h]) fun _ _ => ?_
  have hbody : Keeps id (fun p _ => p = phase)
      (do let c ← Job.need other
          if c.isFinalized then return none
          return some (← finalizeRecord other c) : Job (Option Status)).run phase := by
    refine Keeps.aside trivial rfl fun found hfound => ?_
    cases found with
    | none => rfl
    | some c =>
      show Keeps id _ (if c.isFinalized then _ else _ : Job _).run _
      split
      · rfl
      · refine Keeps.bindJob (keeps_finalizeRecord_of_ne (hfound c rfl) h) ?_ fun p err hp => hp
        rintro p status rfl
        rfl
  show Keeps id _ (Routine.bind _ fun result => .step (.unlock other) fun _ => .done result) _
  apply Keeps.bind hbody
  rintro p result rfl
  exact Keeps.aside trivial (by simp [touches, h]) fun _ _ => rfl

theorem keeps_finalize (other : Int) :
    Keeps id (fun p _ => p = .free) (finalize other).run .free := by
  by_cases h : other = id
  · subst h
    exact keeps_finalize_of_eq (.inl rfl)
  · exact keeps_finalize_of_ne h

/-! ## Killing, and finalizing what waits -/

theorem keeps_request (other : Int) (user : String) :
    Keeps id (fun p _ => p = .free)
      (record other fun now => .ofUser now Status.killed.name user).run .free :=
  keeps_record_silent (fun _ h => nomatch h) fun _ => rfl

theorem keeps_killRunning (other : Int) (user : String) (c : Container) :
    Keeps id (fun p _ => p = .free) (killRunning other user c).run .free := by
  unfold killRunning
  split
  · refine Keeps.bindJob (Keeps.engine _) ?_ fun p err hp => hp
    rintro p - rfl
    refine Keeps.bindJob (keeps_request other user) ?_ fun p err hp => hp
    rintro p - rfl
    refine Keeps.bindJob (Keeps.ask trivial rfl) ?_ fun p err hp => hp.1
    rintro p found ⟨rfl, -⟩
    cases found <;> rfl
  · refine Keeps.bindJob (Keeps.engine _) ?_ fun p err hp => hp
    rintro p - rfl
    refine Keeps.bindJob (keeps_request other user) ?_ fun p err hp => hp
    rintro p - rfl
    refine Keeps.bindJob (keeps_finalize other) ?_ fun p err hp => hp
    rintro p status rfl
    refine Keeps.bindJob (Keeps.engine _) ?_ fun p err hp => hp
    rintro p - rfl
    rfl
  · refine Keeps.bindJob (keeps_request other user) ?_ fun p err hp => hp
    rintro p - rfl
    refine Keeps.bindJob (keeps_finalize other) ?_ fun p err hp => hp
    rintro p status rfl
    rfl

theorem keeps_kill (other : Int) (user : String) :
    Keeps id (fun p _ => p = .free) (kill other user).run .free := by
  refine Keeps.aside trivial rfl fun found _ => ?_
  cases found with
  | none => rfl
  | some c =>
    show Keeps id _ (if _ then _ else _ : Job _).run _
    split
    · rfl
    · exact keeps_killRunning other user c

theorem keeps_refinalizeWaiting : Keeps id (fun p _ => p = .free) refinalizeWaiting .free := by
  refine Keeps.aside trivial rfl ?_
  rintro waiting -
  -- one finalization after the other, each of them ending free
  show Keeps id _ (List.mapM (fun c : Container => (finalize c.databaseId).run.bind fun result =>
    Routine.done (c.databaseId, result)) waiting) _
  induction waiting with
  | nil => rfl
  | cons c rest ih =>
    rw [List.mapM_cons]
    refine Keeps.bind (Keeps.bind (R := fun p _ => p = .free) (keeps_finalize c.databaseId)
      fun p r hp => hp) ?_
    rintro p r rfl
    apply Keeps.bind ih
    rintro p results rfl
    rfl

/-! ## All calls -/

/-- Every call keeps to the rules, and settles what it owes. -/
theorem keeps_task (c : Call) : Keeps id (Settles id) c.task .free := by
  cases c with
  | handle e =>
    apply Keeps.bind (keeps_handle e)
    rintro p r (rfl | ⟨rfl, rfl⟩)
    · exact .inl rfl
    · exact .inr ⟨rfl, List.mem_singleton.2 rfl⟩
  | finalize other =>
    apply Keeps.bind (keeps_finalize other)
    rintro p r rfl
    exact .inl rfl
  | kill other user =>
    apply Keeps.bind (keeps_kill other user)
    rintro p r rfl
    exact .inl rfl
  | refinalizeWaiting =>
    apply Keeps.bind keeps_refinalizeWaiting
    rintro p r rfl
    exact .inl rfl

/-- A finalization may take over what another call owes. -/
theorem keeps_task_finalize_owing : Keeps id (Settles id) (Call.finalize id).task .owing := by
  apply Keeps.bind (keeps_finalize_of_eq (.inr rfl))
  rintro p r rfl
  exact .inl rfl

end Mooring.Tracker
