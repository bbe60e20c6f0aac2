import Mooring.Proofs.Lifecycle.Interleaving

set_option autoImplicit false

/-!
# Delivering an event again

An event whose handling failed, because a change of the record could not be saved, is delivered
again once changes are saved. If the failed delivery left the store alone, the second one does
exactly what it would have done in its place. The only other way to fail is to save the entry of a
task and not what the task says about its place; the entry is then refused as a duplicate, and the
exit of the task is not reported (`redelivery`).
-/

namespace Mooring

namespace EngineEvent

/-- The record that an event is about. -/
def target? (store : Store) : EngineEvent → Option Int
  | .container e => store.find? e.id
  | .task id _ | .missing id => some id

/-- The entry that records an event. -/
def entry : EngineEvent → Instant → HistoryEntry
  | .container e, now => .ofEvent now e
  | .task _ t, now => .ofTask now t
  | .missing _, now => Tracker.systemEntry .failed Tracker.missingMessage now

/-- Whether an event reports an exit. -/
def reportsExit : EngineEvent → Bool
  | .container e => HistoryEntry.eventEnds e.status
  | .task _ t => t.isExited
  | .missing _ => false

/-- Whether an event tells its time, if it is about a task. -/
def IsTimed : EngineEvent → Prop
  | .task _ t => t.statusTime.isSome = true
  | .container _ | .missing _ => True

/-- Whether nothing is recorded of an event: a service that was killed is bound to be gone. -/
def isIgnored (c : Container) : EngineEvent → Bool
  | .missing _ => c.wasKilled
  | .container _ | .task _ _ => false

/-- Whether a record has what an event says about the place of a task. -/
def IsPlaced (c : Container) : EngineEvent → Prop
  | .task _ t => c.taskId = some t.taskId ∧ c.nodeId = some t.nodeId ∧
      ∀ container, t.containerId = some container → c.containerId = some container
  | .container _ | .missing _ => True

end EngineEvent

namespace Tracker

variable {σ α β : Type} {s : Surroundings σ} {w : World σ} {id : Int}
  {entry : Instant → HistoryEntry}

/-! ## Running the jobs of the tracker -/

theorem run_bindJob (s : Surroundings σ) (w : World σ) (j : Job α) (f : α → Job β) :
    (j >>= f).run.run s w =
      match j.run.run s w with
      | (.ok a, w') => (f a).run.run s w'
      | (.error e, w') => (.error e, w') := by
  show (Routine.bind j.run _).run s w = _
  rw [Routine.run_bind]
  rcases j.run.run s w with ⟨e | a, w'⟩
  · rfl
  · rfl

/-- What two jobs did one after the other, if neither failed. -/
theorem exists_of_run_bindJob {j : Job α} {f : α → Job β} {b : β} {w' : World σ}
    (h : (j >>= f).run.run s w = (.ok b, w')) :
    ∃ a w₁, j.run.run s w = (.ok a, w₁) ∧ (f a).run.run s w₁ = (.ok b, w') := by
  rw [run_bindJob] at h
  rcases hj : j.run.run s w with ⟨e | a, w₁⟩ <;> rw [hj] at h
  · cases h
  · exact ⟨a, w₁, rfl, h⟩

theorem run_append (s : Surroundings σ) (w : World σ) (id : Int)
    (entry : Instant → HistoryEntry) :
    (Job.append id entry).run.run s w =
      let r := w.afterStore
        (Store.append s.shelf id (entry (s.now w.outside)) w.store w.outside)
      (r.1.mapError .store, r.2) :=
  rfl

theorem run_update (s : Surroundings σ) (w : World σ) (id : Int)
    (change : Container → Container) :
    (Job.update id change).run.run s w =
      let r := World.withRecord id
        (w.afterStore (Store.update s.shelf id change w.store w.outside))
      (r.1.mapError .store, r.2) :=
  rfl

/-- A change that cannot be saved fails the recording. -/
theorem run_record_failed {e : StoreError} {disk : σ}
    (h : Store.append s.shelf id (entry (s.now w.outside)) w.store w.outside =
      (.error e, w.store, disk)) :
    (record id entry).run.run s w = (.error (.store e), { w with outside := disk }) := by
  have happend : (Job.append id entry).run.run s w =
      (.error (.store e), { w with outside := disk }) := by
    rw [run_append, h]
    rfl
  unfold record
  rw [run_bindJob, happend]

/-- A duplicate changes nothing. -/
theorem run_record_refused
    (h : Store.append s.shelf id (entry (s.now w.outside)) w.store w.outside =
      (.ok none, w.store, w.outside)) :
    (record id entry).run.run s w = (.ok none, w) := by
  have happend : (Job.append id entry).run.run s w = (.ok none, w) := by
    rw [run_append, h]
    rfl
  unfold record
  rw [run_bindJob, happend]
  rfl

/-- What is saved is recorded, and its change of status is published. -/
theorem run_record_saved {change : StatusChange} {store : Store} {disk : σ}
    (h : Store.append s.shelf id (entry (s.now w.outside)) w.store w.outside =
      (.ok (some change), store, disk)) :
    ∃ published, (record id entry).run.run s w =
      (.ok (some change), { w with store, outside := disk, published }) := by
  have happend : (Job.append id entry).run.run s w =
      (.ok (some change), { w with store, outside := disk }) := by
    rw [run_append, h]
    rfl
  unfold record
  rw [run_bindJob, happend]
  by_cases hmoved : change.moved = true
  · exact ⟨_, by simp only [hmoved]; rfl⟩
  · exact ⟨w.published, by simp only [hmoved]; rfl⟩

theorem run_get (s : Surroundings σ) {c : Container} (h : w.store.get? id = some c) :
    (Job.ask (.get id)).run.run s w = (.ok (some c), w) := by
  show (Except.ok (w.store.get? id), w) = _
  rw [h]

theorem run_find (s : Surroundings σ) {name : String} (h : w.store.find? name = some id) :
    (Job.ask (.find name)).run.run s w = (.ok (some id), w) := by
  show (Except.ok (w.store.find? name), w) = _
  rw [h]

/-! ## What the handling of an event can do -/

/-- The changes that follow once the entry of a task is saved. -/
def place (id : Int) (t : ServiceTask) : Job (Option Int) := do
  let _ ← Job.update id (withTask t)
  Job.ask (.publish (LifecycleEvent.taskChanged id t.taskId t.status))
  return if t.isExited then some id else none

theorem run_place_failed {t : ServiceTask} {e : StoreError} {disk : σ}
    (h : Store.update s.shelf id (withTask t) w.store w.outside = (.error e, w.store, disk)) :
    (place id t).run.run s w = (.error (.store e), { w with outside := disk }) := by
  have hupdate : (Job.update id (withTask t)).run.run s w =
      (.error (.store e), { w with outside := disk }) := by
    rw [run_update, h]
    rfl
  unfold place
  rw [run_bindJob, hupdate]

theorem run_place_saved {t : ServiceTask} {c : Container} {store : Store} {disk : σ}
    (h : Store.update s.shelf id (withTask t) w.store w.outside = (.ok (), store, disk))
    (hc : store.get? id = some c) :
    ∃ published, (place id t).run.run s w =
      (.ok (if t.isExited then some id else none),
        { w with store, outside := disk, published }) := by
  have hupdate : (Job.update id (withTask t)).run.run s w =
      (.ok c, { w with store, outside := disk }) := by
    rw [run_update, h]
    simp only [World.afterStore, World.withRecord, hc]
    rfl
  unfold place
  rw [run_bindJob, hupdate]
  exact ⟨_, rfl⟩

/-- What follows once the entry of an event is recorded or refused. -/
def afterEntry (id : Int) : EngineEvent → Option StatusChange → Job (Option Int)
  | .container e, change =>
    return if change.isSome ∧ HistoryEntry.eventEnds e.status then some id else none
  | .task _ t, some _ => place id t
  | .task _ _, none | .missing _, _ => return none

variable {e : EngineEvent} {c d : Container}

theorem handleTask_eq (id : Int) (t : ServiceTask) : handleTask id t =
    record id (EngineEvent.task id t).entry >>= afterEntry id (.task id t) := by
  refine congrArg (record id (HistoryEntry.ofTask · t) >>= ·) (funext fun change => ?_)
  cases change with
  | none => rfl
  | some change => rfl

/-- Handling an event records its entry, unless it is ignored. -/
theorem run_handle (s : Surroundings σ) (hid : e.target? w.store = some id)
    (hc : w.store.get? id = some c) (hopen : e.isIgnored c = false) :
    (handle e).run.run s w = (record id e.entry >>= afterEntry id e).run.run s w := by
  cases e with
  | container e =>
    show (Job.ask (.find e.id) >>= _ : Job _).run.run s w = _
    rw [run_bindJob, run_find s hid]
    rfl
  | task other t =>
    obtain rfl : other = id := Option.some.inj hid
    exact congrArg (fun j : Job (Option Int) => j.run.run s w) (handleTask_eq other t)
  | missing other =>
    obtain rfl : other = id := Option.some.inj hid
    show (Job.ask (.get other) >>= _ : Job _).run.run s w = _
    rw [run_bindJob, run_get s hc]
    simp only [show c.wasKilled = false from hopen]
    rfl

/-- An event that is ignored cannot fail. -/
theorem run_handle_ignored (s : Surroundings σ) (hid : e.target? w.store = some id)
    (hc : w.store.get? id = some c) (hignored : e.isIgnored c = true) :
    (handle e).run.run s w = (.ok (some id), w) := by
  cases e with
  | container e => cases hignored
  | task other t => cases hignored
  | missing other =>
    obtain rfl : other = id := Option.some.inj hid
    show (Job.ask (.get other) >>= _ : Job _).run.run s w = _
    rw [run_bindJob, run_get s hc]
    simp only [show c.wasKilled = true from hignored]
    rfl

/-- A change of place that fails leaves the store alone. -/
theorem run_place_error {t : ServiceTask} {err : Error} {w' : World σ}
    (hd : w.store.get? id = some d) (hfail : (place id t).run.run s w = (.error err, w')) :
    ∃ disk, w' = { w with outside := disk } := by
  rcases Store.update_cases_of_get? s.shelf w.outside hd (withTask t) with ⟨-, hu⟩ | ⟨e, -, hu⟩
  · have hplaced : ((w.store.indexed (withTask t d)).put (withTask t d)).get? id =
        some (withTask t d) :=
      Store.get?_put_of_eq (show d.databaseId = id from Store.databaseId_of_get? hd)
    obtain ⟨published, hplace⟩ := run_place_saved hu hplaced
    rw [hplace] at hfail
    cases hfail
  · rw [run_place_failed hu] at hfail
    cases hfail
    exact ⟨_, rfl⟩

/-- The handling of an event fails where its entry could not be saved, or where the entry of a task
was saved and what the task says about its place was not. -/
theorem handle_error_cases {err : Error} {w' : World σ} (hid : e.target? w.store = some id)
    (hc : w.store.get? id = some c) (hfail : (handle e).run.run s w = (.error err, w')) :
    e.isIgnored c = false ∧ ∃ d, c.append? (e.entry (s.now w.outside)) = some d ∧
      ((∃ disk, w' = { w with outside := disk }) ∨
        ∃ t disk published, e = .task id t ∧
          w' = { w with store := w.store.put d, outside := disk, published }) := by
  -- what is ignored does not fail
  have hopen : e.isIgnored c = false := by
    cases hignored : e.isIgnored c with
    | false => rfl
    | true =>
      rw [run_handle_ignored s hid hc hignored] at hfail
      cases hfail
  refine ⟨hopen, ?_⟩
  rw [run_handle s hid hc hopen, run_bindJob] at hfail
  rcases Store.append_cases_of_get? s.shelf w.outside hc (e.entry (s.now w.outside)) with
    ⟨-, hr⟩ | ⟨d, hd, -, hr⟩ | ⟨d, e', hd, -, hr⟩
  · -- after a duplicate nothing can fail
    rw [run_record_refused hr] at hfail
    cases e <;> cases hfail
  · obtain ⟨published, hrecord⟩ := run_record_saved hr
    rw [hrecord] at hfail
    refine ⟨d, hd, .inr ?_⟩
    -- once the entry is saved, only a task has something left to save
    cases e with
    | container e => cases hfail
    | missing other => cases hfail
    | task other t =>
      obtain rfl : other = id := Option.some.inj hid
      have hget : (w.store.put d).get? other = some d := Store.get?_put_of_append? hc hd
      obtain ⟨disk, rfl⟩ := run_place_error hget hfail
      exact ⟨t, disk, published, rfl, rfl⟩
  · rw [run_record_failed hr] at hfail
    cases hfail
    exact ⟨d, hd, .inl ⟨_, rfl⟩⟩

/-! ## What a delivery is for -/

/-- Whether a delivery of an event did what it is for: the record has the entry, which it did not
have before, and what the event says about its place, and an exit is answered with the record to
finalize. -/
structure Delivered (e : EngineEvent) (id : Int) (c : Container)
    (r : Except Error (Option Int) × World σ) : Prop where
  answered : r.1 = .ok (if e.reportsExit then some id else none)
  recorded : ∃ d now, r.2.store.get? id = some d ∧ d.history = c.history ++ [e.entry now] ∧
    c.records (e.entry now) = false ∧ e.IsPlaced d

/-- Whether an event is recorded does not depend on when it is recorded. -/
theorem records_entry (c : Container) (e : EngineEvent) (now later : Instant) :
    c.records (e.entry now) = c.records (e.entry later) := by
  cases e <;> rfl

/-- Once recorded, an event that tells its time is a duplicate. -/
theorem records_of_append? {now : Instant} (h : c.append? (e.entry now) = some d)
    {t : ServiceTask} (he : e = .task id t) (htimed : e.IsTimed) (later : Instant) :
    d.records (e.entry later) = true := by
  subst he
  rw [records_entry d _ later now]
  rw [Container.records_append? h]
  obtain ⟨time, htime⟩ := Option.isSome_iff_exists.1 htimed
  simp [HistoryEntry.sameEvent, EngineEvent.entry, HistoryEntry.ofTask, htime]

/-- An entry says nothing about a place. -/
theorem isPlaced_append? {entry : HistoryEntry} (h : c.append? entry = some d) :
    e.IsPlaced d ↔ e.IsPlaced c := by
  rw [Container.eq_of_append? h]
  cases e <;> rfl

/-- Where changes are saved, an event that is not recorded is delivered. -/
theorem delivered_of_saves (hs : s.Saves) (hid : e.target? w.store = some id)
    (hc : w.store.get? id = some c) (hopen : e.isIgnored c = false)
    (hnew : c.records (e.entry (s.now w.outside)) = false) :
    Delivered e id c ((handle e).run.run s w) := by
  rcases Store.append_of_saves w.outside hs hc (e.entry (s.now w.outside)) with
    ⟨hd, -⟩ | ⟨d, hd, hr⟩
  · -- a new entry is not refused
    unfold Container.append? at hd
    rw [hnew] at hd
    cases hd
  have hget : (w.store.put d).get? id = some d := Store.get?_put_of_append? hc hd
  obtain ⟨published, hrecord⟩ := run_record_saved hr
  rw [run_handle s hid hc hopen, run_bindJob, hrecord]
  have hhistory := Container.history_of_append? hd
  cases e with
  | container e =>
    refine ⟨?_, d, _, hget, hhistory, hnew, trivial⟩
    show Except.ok (if true = true ∧ HistoryEntry.eventEnds e.status then some id else none) = _
    by_cases hends : HistoryEntry.eventEnds e.status = true
    · simp [EngineEvent.reportsExit, hends]
    · simp [EngineEvent.reportsExit, hends]
  | missing other => exact ⟨rfl, d, _, hget, hhistory, hnew, trivial⟩
  | task other t =>
    obtain rfl : other = id := Option.some.inj hid
    -- the change of place is saved over the record with the entry
    have hplaced : (((w.store.put d).indexed (withTask t d)).put (withTask t d)).get? other =
        some (withTask t d) :=
      Store.get?_put_of_eq (show d.databaseId = other from Store.databaseId_of_get? hget)
    obtain ⟨published', hplace⟩ := run_place_saved
      (w := { w with store := w.store.put d, outside := (s.shelf.save d w.outside).2, published })
      (Store.update_of_saves _ hs hget (withTask t)) hplaced
    refine ⟨congrArg Prod.fst hplace, withTask t d, s.now w.outside, ?_, hhistory, hnew, rfl, rfl,
      fun container h => ?_⟩
    · exact (congrArg (fun r => r.2.store.get? other) hplace).trans hplaced
    · show (t.containerId <|> d.containerId) = some container
      rw [h]
      rfl

/-! ## Redelivery -/

/-- A task whose entry is in the history is refused, and no exit is reported. -/
theorem run_handle_again (hs : s.Saves) {t : ServiceTask} {now : Instant}
    (hd : w.store.get? id = some d)
    (happend : c.append? ((EngineEvent.task id t).entry now) = some d)
    (htimed : (EngineEvent.task id t).IsTimed) :
    (handle (.task id t)).run.run s w = (.ok none, w) := by
  have hrefused : Store.append s.shelf id ((EngineEvent.task id t).entry (s.now w.outside))
      w.store w.outside = (.ok none, w.store, w.outside) := by
    rcases Store.append_of_saves w.outside hs hd _ with ⟨-, hr⟩ | ⟨d', hd', -⟩
    · exact hr
    · rw [Container.append?_eq_some_iff, records_of_append? happend rfl htimed] at hd'
      cases hd'.1
  rw [run_handle s rfl hd rfl, run_bindJob, run_record_refused hrefused]
  rfl

/-- A delivery that is refused did what it is for if no exit had to be reported and the place was
known before. -/
theorem delivered_refused_iff {now : Instant} (hd : w.store.get? id = some d)
    (happend : c.append? (e.entry now) = some d) :
    Delivered e id c (.ok none, w) ↔ e.reportsExit = false ∧ e.IsPlaced c := by
  constructor
  · intro h
    obtain ⟨d', _, hd', -, -, hplaced⟩ := h.recorded
    obtain rfl := Option.some.inj (hd.symm.trans hd')
    refine ⟨?_, (isPlaced_append? happend).1 hplaced⟩
    have hanswer := h.answered
    cases hexit : e.reportsExit with
    | false => rfl
    | true =>
      rw [hexit] at hanswer
      cases hanswer
  · rintro ⟨hexit, hplaced⟩
    refine ⟨?_, d, now, hd, Container.history_of_append? happend,
      (Container.append?_eq_some_iff.1 happend).1, (isPlaced_append? happend).2 hplaced⟩
    rw [hexit]
    rfl

/-- Once changes are saved, an event whose handling failed is delivered again as it would have been
in the first place, unless the failed delivery saved the entry of a task. The second delivery is
then refused, which does no harm only if the task has not come to its end and its place was known
before. -/
theorem redelivery {s s' : Surroundings σ} (hs : s'.Saves) {w' : World σ} {err : Error}
    (hid : e.target? w.store = some id) (hc : w.store.get? id = some c) (htimed : e.IsTimed)
    (hfail : (handle e).run.run s w = (.error err, w')) (outside : σ) :
    (w'.store = w.store →
      (handle e).run.run s' { w' with outside } = (handle e).run.run s' { w with outside }) ∧
    (Delivered e id c ((handle e).run.run s' { w' with outside }) ↔
      w'.store = w.store ∨ e.reportsExit = false ∧ e.IsPlaced c) := by
  obtain ⟨hopen, d, hd, ⟨disk, rfl⟩ | ⟨t, disk, published, rfl, rfl⟩⟩ :=
    handle_error_cases hid hc hfail
  · -- nothing was saved, so that the entry is as new as it was
    refine ⟨fun _ => rfl, fun _ => .inl rfl, fun _ => ?_⟩
    refine delivered_of_saves hs hid hc hopen ?_
    rw [records_entry c e _ (s.now w.outside)]
    exact (Container.append?_eq_some_iff.1 hd).1
  · -- the entry was saved, so that it is a duplicate now
    have hget : (w.store.put d).get? id = some d := Store.get?_put_of_append? hc hd
    have hmoved : w.store.put d ≠ w.store := Store.put_ne_of_append? hc hd
    refine ⟨fun hsame => absurd hsame hmoved, ?_⟩
    rw [run_handle_again (w := { w with store := w.store.put d, outside, published }) hs hget hd
      htimed]
    exact (delivered_refused_iff hget hd).trans (or_iff_right hmoved).symm

/-! ## An exit that is lost -/

/-- Surroundings in which a number of saves succeed. -/
def scarce : Surroundings Nat where
  now _ := ⟨0, 0⟩
  shelf := ⟨fun _ room => if room = 0 then (.error (.unusable "d"), room) else (.ok (), room - 1)⟩
  engine _ room := (.error .notConfigured, room)
  finalizer _ room := (.ok [], room)
  loadServer _ := .ok none
  saveCheckTime _ room := (.ok (), room)
  issueToken _ room := (.ok "", room)
  makeBuildDirectory room := (.ok "", room)

/-- The same surroundings with room for everything. -/
def ample : Surroundings Nat :=
  { scarce with shelf := .none }

/-- The task of the service is complete. -/
def exit : EngineEvent :=
  .task 1 ⟨"s1", "t1", "n1", "complete", some ⟨0, 0⟩, none, none, none⟩

/-- There is room for the entry of the task, and for nothing after it. -/
def cramped : World Nat where
  store := serviceStore
  outside := 1

/-- The world after the exit was delivered for the first time. -/
def halfway : World Nat :=
  ((handle exit).run.run scarce cramped).2

theorem handle_exit :
    (handle exit).run.run scarce cramped = (.error (.store (.unusable "d")), halfway) :=
  Prod.ext (by rfl) rfl

/-- An exit whose first delivery failed is not reported by the second one. -/
theorem not_delivered_halfway :
    (handle exit).run.run scarce cramped = (.error (.store (.unusable "d")), halfway) ∧
      ¬ Delivered exit 1 service ((handle exit).run.run ample halfway) := by
  constructor
  · exact handle_exit
  · intro h
    have hanswer : ((handle exit).run.run ample halfway).1 = .ok none := by rfl
    have hexit : exit.reportsExit = true := by decide +kernel
    have hanswered := hanswer.symm.trans h.answered
    rw [if_pos hexit] at hanswered
    cases hanswered

theorem redelivery_halfway :
    ample.Saves ∧ exit.target? cramped.store = some 1 ∧ cramped.store.get? 1 = some service ∧
      exit.IsTimed ∧
      (handle exit).run.run scarce cramped = (.error (.store (.unusable "d")), halfway) ∧
      (Delivered exit 1 service ((handle exit).run.run ample { halfway with outside := 5 }) ↔
        halfway.store = cramped.store ∨ exit.reportsExit = false ∧ exit.IsPlaced service) := by
  have hsaves : ample.Saves := Shelf.none_saves
  have hid : exit.target? cramped.store = some 1 := rfl
  have htimed : exit.IsTimed := rfl
  exact ⟨hsaves, hid, get?_serviceStore, htimed, handle_exit,
    (redelivery hsaves hid get?_serviceStore htimed handle_exit 5).2⟩

end Tracker

end Mooring
