import Mooring.Proofs.Container.Noting
import Mooring.Proofs.Lifecycle.Discipline
import Mooring.Proofs.Lifecycle.Redelivery
import Mooring.Proofs.Store.Growth

set_option autoImplicit false

/-!
# What a finalization does

Where changes are saved, recording an entry and finalizing change one record and no other
(`Store.Becomes`). A container that has come to its end is passed over; one that has not gets the
terminal status that its history tells, if the finalizer succeeds (`Tracker.run_finalize_open`).
-/

namespace Mooring

variable {σ α : Type} {s : Surroundings σ} {w w' w'' : World σ} {id : Int} {c d : Container}

/-- The finalizer never fails. -/
def Surroundings.Finalizes (s : Surroundings σ) : Prop :=
  ∀ c outside, ∃ paths, (s.finalizer c outside).1 = .ok paths

namespace Store

/-- The record of an identifier is now another one; the other records and what leads to it are as
they were. -/
structure Becomes (store : Store) (id : Int) (d : Container) (store' : Store) : Prop where
  record : store'.get? id = some d
  others : ∀ other, other ≠ id → store'.get? other = store.get? other
  leads : ∀ name, store.find? name = some id → store'.find? name = some id

variable {store store' store'' : Store}

theorem Becomes.trans (h : store.Becomes id c store') (h' : store'.Becomes id d store'') :
    store.Becomes id d store'' where
  record := h'.record
  others other hne := (h'.others other hne).trans (h.others other hne)
  leads name hname := h'.leads name (h.leads name hname)

/-- A record that is put in its place takes the place of the one before it. -/
theorem becomes_put (hc : store.get? id = some c) (hd : d.databaseId = c.databaseId) :
    store.Becomes id d (store.put d) := by
  have hid : d.databaseId = id := hd.trans (databaseId_of_get? hc)
  exact ⟨get?_put_of_eq hid, fun other hne => get?_put_of_ne fun he => hne (he.symm.trans hid),
    fun _ hname => hname⟩

theorem becomes_indexed (hc : store.get? id = some c) (hd : d.databaseId = c.databaseId) :
    store.Becomes id d ((store.indexed d).put d) := by
  have hindexed : (store.indexed d).get? id = some c := hc
  obtain ⟨hrecord, hothers, -⟩ := becomes_put hindexed hd
  refine ⟨hrecord, hothers, fun name hname => ?_⟩
  show (store.indexed d).find? name = some id
  rw [find?_indexed, hname, hd.trans (databaseId_of_get? hc), ite_self]

end Store

/-! ## Entries of this system -/

namespace Container

section Growing

variable {e : HistoryEntry} (h : c.append? e = some d)
include h

/-- An entry of this system is no reason for another terminal status. -/
theorem terminalStatus_of_append?_system {status : Status} {message : Option String}
    {now : Instant} (he : e = Tracker.systemEntry status message now) :
    d.terminalStatus = c.terminalStatus := by
  have hcode : d.exitCode? = c.exitCode? := by
    rw [exitCode?_of_append? h, he]
    cases c.exitCode? <;> rfl
  unfold terminalStatus
  rw [wasKilled_of_append? h, hcode, taskCompleted_of_append? h (by rw [he]; nofun), he]
  exact congrArg (fun k : Bool => if k then _ else _) (Bool.or_false _)

/-- An entry of this system leads to its status. -/
theorem statusOf_of_append?_system {status : Status} {message : Option String} {now : Instant}
    (he : e = Tracker.systemEntry status message now) :
    statusOf d.history = some (status, now) := by
  rw [statusOf_of_append? h, he]
  simp [nextStatus, Tracker.systemEntry, HistoryEntry.ofSystem, Origin.isEngine,
    HistoryEntry.status?]

end Growing

end Container

namespace Tracker

/-! ## Recording -/

/-- Where changes are saved, recording an entry refuses it or changes the record. -/
theorem run_record_of_saves (hs : s.Saves) (hc : w.store.get? id = some c)
    (entry : Instant → HistoryEntry) :
    (c.append? (entry (s.now w.outside)) = none ∧ (record id entry).run.run s w = (.ok none, w)) ∨
    (∃ d w', c.append? (entry (s.now w.outside)) = some d ∧
      (record id entry).run.run s w = (.ok (some ⟨c.status, d.status⟩), w') ∧
      w.store.Becomes id d w'.store) := by
  rcases Store.append_of_saves w.outside hs hc (entry (s.now w.outside)) with
    ⟨hd, hr⟩ | ⟨d, hd, hr⟩
  · exact .inl ⟨hd, run_record_refused hr⟩
  · obtain ⟨published, hrecord⟩ := run_record_saved hr
    refine .inr ⟨d, _, hd, hrecord, ?_⟩
    exact Store.becomes_put hc (Container.databaseId_of_append? hd)

/-- An entry of this system is never refused. -/
theorem run_record_system (hs : s.Saves) (hc : w.store.get? id = some c) (status : Status)
    (message : Option String) :
    ∃ d w' now, c.append? (systemEntry status message now) = some d ∧
      (record id (systemEntry status message)).run.run s w =
        (.ok (some ⟨c.status, d.status⟩), w') ∧ w.store.Becomes id d w'.store := by
  rcases run_record_of_saves hs hc (systemEntry status message) with ⟨hnone, -⟩ | ⟨d, w', hd, hr⟩
  · rw [Container.append?_eq_none_iff, Container.records_of_externalTime rfl] at hnone
    cases hnone
  · exact ⟨d, w', s.now w.outside, hd, hr⟩

/-- Where changes are saved, a record is changed as it was asked for. -/
theorem run_update_of_saves (hs : s.Saves) (hc : w.store.get? id = some c)
    {change : Container → Container} (hchange : (change c).databaseId = c.databaseId) :
    ∃ w', (Job.update id change).run.run s w = (.ok (change c), w') ∧
      w.store.Becomes id (change c) w'.store := by
  have hupdate := Store.update_of_saves w.outside hs hc change
  have hbecomes := Store.becomes_indexed hc hchange
  refine ⟨{ w with
    store := (w.store.indexed (change c)).put (change c)
    outside := (s.shelf.save (change c) w.outside).2 }, ?_, hbecomes⟩
  rw [run_update, hupdate]
  simp only [World.afterStore, World.withRecord, hbecomes.record]
  rfl

/-! ## Finalizing -/

theorem run_locked (s : Surroundings σ) (w : World σ) (id : Int) (job : Job α) :
    (Job.locked id job).run.run s w =
      let r := job.run.run s { w with held := id :: w.held }
      (r.1, { r.2 with held := r.2.held.erase id }) := by
  show (Routine.bind job.run _).run s _ = _
  rw [Routine.run_bind]
  rfl

theorem run_need (s : Surroundings σ) (hc : w.store.get? id = some c) :
    (Job.need id).run.run s w = (.ok c, w) := by
  show (Job.ask (.get id) >>= _ : Job _).run.run s w = _
  rw [run_bindJob, run_get s hc]
  rfl

/-- A container that has come to its end is passed over. -/
theorem run_finalize_of_isFinalized (s : Surroundings σ) (hc : w.store.get? id = some c)
    (h : c.isFinalized = true) : (finalize id).run.run s w = (.ok none, w) := by
  have hneed := run_need (w := { w with held := id :: w.held }) s hc
  unfold finalize
  rw [run_locked, run_bindJob, hneed]
  simp only [h, if_true]
  show (_, { w with held := (id :: w.held).erase id }) = _
  rw [List.erase_cons_head]
  rfl

/-- What follows once the finalizer has answered. -/
def conclude (id : Int) : Except (List String) (List String) → Job Status
  | .error causes => do
    let _ ← record id (systemEntry .failed s!"Finalization failed: {Error.joined causes}")
    return .failed
  | .ok paths => do
    let c ← Job.update id fun c => { c with logPaths := c.logPaths ++ paths }
    let status := c.terminalStatus
    let _ ← record id (systemEntry status (terminalMessage status c.exitCode?))
    return status

theorem finalizeRecord_eq (id : Int) (c : Container) : finalizeRecord id c =
    record id (systemEntry .finalizing) >>= fun _ => Job.ask (.finalizer c) >>= conclude id := by
  refine congrArg (record id (systemEntry .finalizing) >>= ·) (funext fun _ => ?_)
  refine congrArg (Job.ask (.finalizer c) >>= ·) (funext fun answer => ?_)
  cases answer with
  | error causes => rfl
  | ok paths => rfl

/-- A finalization whose finalizer failed makes the container `Failed`. -/
theorem run_conclude_error (hs : s.Saves) (hc : w.store.get? id = some c)
    (causes : List String) :
    ∃ d w' now, (conclude id (.error causes)).run.run s w = (.ok .failed, w') ∧
      w.store.Becomes id d w'.store ∧ statusOf d.history = some (.failed, now) ∧
      d.status = .failed := by
  obtain ⟨d, w', now, hd, hrecord, hbecomes⟩ :=
    run_record_system hs hc .failed s!"Finalization failed: {Error.joined causes}"
  have hreached := Container.statusOf_of_append?_system hd rfl
  refine ⟨d, w', now, ?_, hbecomes, hreached, Container.isFaithful_of_append? hd _ hreached⟩
  show (record id _ >>= _ : Job _).run.run s w = _
  rw [run_bindJob, hrecord]
  rfl

/-- A finalization whose finalizer succeeded gives the container the terminal status that its
history tells. -/
theorem run_conclude_ok (hs : s.Saves) (hc : w.store.get? id = some c) (paths : List String) :
    ∃ d w' now, (conclude id (.ok paths)).run.run s w = (.ok c.terminalStatus, w') ∧
      w.store.Becomes id d w'.store ∧ statusOf d.history = some (c.terminalStatus, now) ∧
      d.status = c.terminalStatus := by
  let kept : Container := { c with logPaths := c.logPaths ++ paths }
  obtain ⟨w₁, hupdate, hbecomes₁⟩ : ∃ w₁,
      (Job.update id fun c => { c with logPaths := c.logPaths ++ paths }).run.run s w =
        (.ok kept, w₁) ∧ w.store.Becomes id kept w₁.store :=
    run_update_of_saves hs hc rfl
  obtain ⟨d, w₂, now, hd, hrecord, hbecomes₂⟩ := run_record_system hs hbecomes₁.record
    kept.terminalStatus (terminalMessage kept.terminalStatus kept.exitCode?)
  have hreached := Container.statusOf_of_append?_system hd rfl
  refine ⟨d, w₂, now, ?_, hbecomes₁.trans hbecomes₂, hreached,
    Container.isFaithful_of_append? hd _ hreached⟩
  show (Job.update id _ >>= _ : Job _).run.run s w = _
  rw [run_bindJob, hupdate]
  show (record id _ >>= _ : Job _).run.run s w₁ = _
  rw [run_bindJob, hrecord]
  rfl

/-- The finalization of a record begins with an entry, calls the finalizer once, and ends with a
terminal status: the one that the history of the record tells, if the finalizer never fails. -/
theorem run_finalizeRecord (hs : s.Saves) (hc : w.store.get? id = some c) :
    ∃ status d w' now, (finalizeRecord id c).run.run s w = (.ok status, w') ∧
      w.store.Becomes id d w'.store ∧ statusOf d.history = some (status, now) ∧
      d.status = status ∧ status.isTerminal = true ∧
      (s.Finalizes → status = c.terminalStatus) := by
  obtain ⟨opened, w₁, now₁, hopened, hrecord₁, hbecomes₁⟩ :=
    run_record_system hs hc .finalizing none
  -- the finalizer acts outside
  let w₂ : World σ := { w₁ with outside := (s.finalizer c w₁.outside).2 }
  have hask : (Job.ask (.finalizer c)).run.run s w₁ = (.ok (s.finalizer c w₁.outside).1, w₂) :=
    rfl
  have hrun : (finalizeRecord id c).run.run s w =
      (conclude id (s.finalizer c w₁.outside).1).run.run s w₂ := by
    rw [finalizeRecord_eq, run_bindJob, hrecord₁]
    show (Job.ask (.finalizer c) >>= _ : Job _).run.run s w₁ = _
    rw [run_bindJob, hask]
  rw [hrun]
  cases hanswer : (s.finalizer c w₁.outside).1 with
  | error causes =>
    obtain ⟨d, w₃, now, hconclude, hbecomes₃, hreached, hstatus⟩ :=
      run_conclude_error (w := w₂) hs hbecomes₁.record causes
    refine ⟨.failed, d, w₃, now, hconclude, hbecomes₁.trans hbecomes₃, hreached, hstatus, rfl,
      fun hf => ?_⟩
    obtain ⟨paths, hpaths⟩ := hf c w₁.outside
    rw [hanswer] at hpaths
    cases hpaths
  | ok paths =>
    obtain ⟨d, w₃, now, hconclude, hbecomes₃, hreached, hstatus⟩ :=
      run_conclude_ok (w := w₂) hs hbecomes₁.record paths
    exact ⟨opened.terminalStatus, d, w₃, now, hconclude, hbecomes₁.trans hbecomes₃, hreached,
      hstatus, terminalStatus_isTerminal opened,
      fun _ => Container.terminalStatus_of_append?_system hopened rfl⟩

/-- A container that has not come to its end comes to it, whether the finalizer fails or not. -/
theorem run_finalize_of_saves (hs : s.Saves) (hc : w.store.get? id = some c)
    (hopen : c.isFinalized = false) :
    ∃ status d w' now, (finalize id).run.run s w = (.ok (some status), w') ∧
      w.store.Becomes id d w'.store ∧ statusOf d.history = some (status, now) ∧
      d.status = status ∧ status.isTerminal = true ∧
      (s.Finalizes → status = c.terminalStatus) := by
  have hneed := run_need (w := { w with held := id :: w.held }) s hc
  obtain ⟨status, d, w', now, hrun, hends⟩ :=
    run_finalizeRecord (w := { w with held := id :: w.held }) hs hc
  refine ⟨status, d, { w' with held := w'.held.erase id }, now, ?_, hends⟩
  unfold finalize
  rw [run_locked, run_bindJob, hneed]
  simp only [hopen]
  have hrest : (finalizeRecord id c >>= fun status => pure (some status) : Job _).run.run s
      { w with held := id :: w.held } = (.ok (some status), w') := by
    rw [run_bindJob, hrun]
    rfl
  exact congrArg
    (fun r : _ × World σ => (r.1, { r.2 with held := r.2.held.erase id })) hrest

/-- Where the finalizer never fails, a container that has not come to its end gets the terminal
status that its history tells. -/
theorem run_finalize_open (hs : s.Saves) (hf : s.Finalizes) (hc : w.store.get? id = some c)
    (hopen : c.isFinalized = false) :
    ∃ d w' now, (finalize id).run.run s w = (.ok (some c.terminalStatus), w') ∧
      w.store.Becomes id d w'.store ∧ statusOf d.history = some (c.terminalStatus, now) ∧
      d.status = c.terminalStatus := by
  obtain ⟨status, d, w', now, hrun, hbecomes, hreached, hstatus, -, htold⟩ :=
    run_finalize_of_saves hs hc hopen
  obtain rfl := htold hf
  exact ⟨d, w', now, hrun, hbecomes, hreached, hstatus⟩

/-! ## Processing events -/

theorem run_process (s : Surroundings σ) (w : World σ) (event : EngineEvent) :
    (process event).run.run s w =
      match (handle event).run.run s w with
      | (.ok (some id), w') => (finalize id).run.run s w'
      | (.ok none, w') => (.ok none, w')
      | (.error err, w') => (.error err, w') := by
  unfold process
  rw [run_bindJob]
  rcases (handle event).run.run s w with ⟨err | _ | id, w'⟩ <;> rfl

/-- Process events in order. -/
def processAll : List EngineEvent → Routine Unit
  | [] => return ()
  | e :: rest => do
    let _ ← (process e).run
    processAll rest

theorem run_processAll_cons (s : Surroundings σ) (w : World σ) (event : EngineEvent)
    (rest : List EngineEvent) :
    (processAll (event :: rest)).run s w =
      (processAll rest).run s ((process event).run.run s w).2 :=
  Routine.run_bind ..

end Tracker

end Mooring
