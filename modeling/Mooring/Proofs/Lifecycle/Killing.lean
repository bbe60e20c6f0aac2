import Mooring.Proofs.Lifecycle.Finalizing

set_option autoImplicit false

/-!
# Killing a container

What a kill leaves behind where changes are saved. A container that has stopped is left alone. A
plain container is killed by the engine before anything is recorded, so that a kill that fails
leaves the record as it was. Any other container is finalized on the spot, and a service is removed
only after that: a removal that fails leaves behind a record at its end, which every later kill
passes over (`killAnswered_iff`).
-/

namespace Mooring

variable {σ : Type} {s : Surroundings σ} {w w' : World σ} {id : Int} {c d : Container}
  {user : String}

/-- Whether a container has stopped, so that there is nothing to kill. -/
def Container.hasStopped (c : Container) : Prop :=
  c.isFinalized = true ∨ c.status = .finalizing ∨ c.status = .waiting

instance (c : Container) : Decidable c.hasStopped :=
  inferInstanceAs (Decidable (_ ∨ _))

namespace Status

theorem ne_of_not_isTerminal {s t : Status} (ht : t.isTerminal = true)
    (hs : s.isTerminal = false) : s ≠ t := by
  rintro rfl
  rw [ht] at hs
  cases hs

/-- There are three terminal statuses. -/
theorem eq_killed_iff {s : Status} (hs : s.isTerminal = true) :
    s = .killed ↔ s ≠ .complete ∧ s ≠ .failed := by
  cases s <;> simp_all [isTerminal]

end Status

theorem Container.hasStopped_of_isTerminal (h : c.status.isTerminal = true) : c.hasStopped :=
  .inl h

namespace Tracker

/-! ## Steps of a kill -/

theorem run_engine (s : Surroundings σ) (w : World σ) (call : EngineCall) :
    (Job.engine call).run.run s w =
      ((s.engine call w.outside).1.mapError .engine,
        { w with outside := (s.engine call w.outside).2 }) :=
  rfl

/-- The entry of a request to kill. -/
def request (user : String) (now : Instant) : HistoryEntry :=
  .ofUser now Status.killed.name user

/-- A request is recorded, and leaves the record with the status that its history leads to. -/
theorem run_record_request (hs : s.Saves) (hc : w.store.get? id = some c) (user : String) :
    ∃ d w', (record id (request user)).run.run s w = (.ok (some ⟨c.status, d.status⟩), w') ∧
      w.store.Becomes id d w'.store ∧ d.status = c.withStatus.status := by
  rcases run_record_of_saves hs hc (request user) with ⟨hnone, -⟩ | ⟨d, w', hd, hrecord, hbecomes⟩
  · rw [Container.append?_eq_none_iff, Container.records_of_externalTime rfl] at hnone
    cases hnone
  · refine ⟨d, w', hrecord, hbecomes, ?_⟩
    -- a user's entry implies no status
    have hsame : statusOf d.history = statusOf c.history := by
      rw [Container.statusOf_of_append? hd]
      simp [nextStatus, request, HistoryEntry.ofUser, HistoryEntry.status?, Origin.isEngine]
    rw [Container.status_of_append? hd, hsame, Container.status_withStatus]

/-- Record a request to kill, and finalize the container on the spot. -/
def requestAndFinalize (id : Int) (user : String) : Job (Option Status) := do
  let _ ← record id (request user)
  finalize id

/-- The container is then at its end, and the answer tells its status, unless its history led to
another end before. -/
theorem run_requestAndFinalize (hs : s.Saves) (hc : w.store.get? id = some c) (user : String) :
    ∃ answer d w', (requestAndFinalize id user).run.run s w = (.ok answer, w') ∧
      w'.store.get? id = some d ∧ d.status.isTerminal = true ∧
      (d.status = answer.getD .killed ↔
        c.withStatus.status ≠ .complete ∧ c.withStatus.status ≠ .failed) := by
  obtain ⟨asked, w₁, hrecord, hbecomes, hasked⟩ := run_record_request hs hc user
  have hrun : (requestAndFinalize id user).run.run s w = (finalize id).run.run s w₁ := by
    unfold requestAndFinalize
    rw [run_bindJob, hrecord]
  rw [hrun, ← hasked]
  cases hends : asked.isFinalized with
  | true =>
    exact ⟨none, asked, w₁, run_finalize_of_isFinalized s hbecomes.record hends,
      hbecomes.record, hends, Status.eq_killed_iff hends⟩
  | false =>
    obtain ⟨status, d, w₂, -, hfinalize, hbecomes₂, -, hstatus, hterminal, -⟩ :=
      run_finalize_of_saves hs hbecomes.record hends
    -- an open record is finalized, and its answer is the status it ends with
    have hopen : asked.status ≠ .complete ∧ asked.status ≠ .failed :=
      ⟨Status.ne_of_not_isTerminal rfl hends, Status.ne_of_not_isTerminal rfl hends⟩
    exact ⟨some status, d, w₂, hfinalize, hbecomes₂.record, hstatus ▸ hterminal,
      iff_of_true hstatus hopen⟩

/-! ## The routes of a kill -/

/-- Without an identifier there is nothing to ask of the engine, whether a service or not. -/
theorem killRunning_of_none (hexternal : c.externalId? = none) (id : Int) (user : String) :
    killRunning id user c = do
      return (← requestAndFinalize id user).getD .killed := by
  unfold killRunning requestAndFinalize
  rw [hexternal, bind_assoc]
  cases c.swarm <;> rfl

theorem killRunning_of_plain {external : String} (hswarm : c.swarm = false)
    (hexternal : c.externalId? = some external) (id : Int) (user : String) :
    killRunning id user c = do
      Job.engine (.killContainer external)
      let _ ← record id (request user)
      match ← Job.ask (.get id) with
      | some c => return c.status
      | none => return c.status := by
  unfold killRunning
  rw [hswarm, hexternal]
  rfl

theorem killRunning_of_service {external : String} (hswarm : c.swarm = true)
    (hexternal : c.externalId? = some external) (id : Int) (user : String) :
    killRunning id user c = do
      Job.engine .ping
      let status ← requestAndFinalize id user
      Job.engine (.removeService external)
      return status.getD .killed := by
  unfold killRunning requestAndFinalize
  rw [hswarm, hexternal]
  simp only [bind_assoc]
  rfl

/-- A container that has stopped is left alone. -/
theorem run_kill_of_hasStopped (s : Surroundings σ) (hc : w.store.get? id = some c)
    (h : c.hasStopped) (user : String) : (kill id user).run.run s w = (.ok c.status, w) := by
  unfold kill
  rw [run_bindJob, run_need s hc]
  exact congrArg (fun j : Job Status => j.run.run s w) (if_pos h)

theorem run_kill_of_not_hasStopped (s : Surroundings σ) (hc : w.store.get? id = some c)
    (h : ¬ c.hasStopped) (user : String) :
    (kill id user).run.run s w = (killRunning id user c).run.run s w := by
  unfold kill
  rw [run_bindJob, run_need s hc]
  exact congrArg (fun j : Job Status => j.run.run s w) (if_neg h)

/-- Whether a kill gets to a finalization: the container has not stopped, it is no plain container
known to the engine, and if it is a service known to the engine, the engine answers. -/
def KillFinalizes (s : Surroundings σ) (w : World σ) (c : Container) : Prop :=
  ¬ c.hasStopped ∧
    match c.swarm, c.externalId? with
    | false, some _ => False
    | true, some _ => (s.engine .ping w.outside).1 = .ok ()
    | _, none => True

/-- Whether the answer to a kill holds: if it failed, the history, the status and the log paths of
the record are what they were before it, and if it succeeded, it tells the status of the record. -/
structure KillAnswered (id : Int) (c : Container) (r : Except Error Status × World σ) : Prop where
  kept : ∀ e, r.1 = .error e → ∃ d, r.2.store.get? id = some d ∧ d.history = c.history ∧
    d.status = c.status ∧ d.logPaths = c.logPaths
  told : ∀ status, r.1 = .ok status → ∃ d, r.2.store.get? id = some d ∧ d.status = status

theorem KillAnswered.of_ok {status : Status} (hd : w'.store.get? id = some d)
    (h : d.status = status) : KillAnswered id c (.ok status, w') where
  kept _ he := nomatch he
  told _ ht := ⟨d, hd, h.trans (Except.ok.inj ht)⟩

theorem KillAnswered.of_error {e : Error} (hc : w'.store.get? id = some c) :
    KillAnswered id c (.error e, w') where
  kept _ _ := ⟨c, hc, rfl, rfl, rfl⟩
  told _ ht := nomatch ht

/-! ## Whether the answer to a kill holds -/

/-- A kill of a plain container is recorded only if the engine killed it. -/
theorem killAnswered_plain (hs : s.Saves) (hc : w.store.get? id = some c) (hswarm : c.swarm = false)
    {external : String} (hexternal : c.externalId? = some external) (user : String) :
    KillAnswered id c ((killRunning id user c).run.run s w) := by
  rw [killRunning_of_plain hswarm hexternal, run_bindJob, run_engine]
  cases hkill : (s.engine (.killContainer external) w.outside).1 with
  | error e => exact .of_error hc
  | ok _ =>
    let w₁ : World σ := { w with outside := (s.engine (.killContainer external) w.outside).2 }
    obtain ⟨d, w₂, hrecord, hbecomes, -⟩ := run_record_request (w := w₁) hs hc user
    show KillAnswered id c ((record id (request user) >>= _ : Job _).run.run s w₁)
    rw [run_bindJob, hrecord]
    show KillAnswered id c ((Job.ask (.get id) >>= _ : Job _).run.run s w₂)
    rw [run_bindJob, run_get s hbecomes.record]
    exact .of_ok hbecomes.record rfl

/-- A kill that gets to the finalization leaves the record at its end, whatever comes of the removal
of a service after it. -/
theorem run_killRunning_of_killFinalizes (hs : s.Saves) (hc : w.store.get? id = some c)
    (h : KillFinalizes s w c) (user : String) :
    ∃ told d, ((killRunning id user c).run.run s w).2.store.get? id = some d ∧
      d.status.isTerminal = true ∧
      (d.status = told ↔ c.withStatus.status ≠ .complete ∧ c.withStatus.status ≠ .failed) ∧
      (((killRunning id user c).run.run s w).1 = .ok told ∨
        ∃ e, ((killRunning id user c).run.run s w).1 = .error e) := by
  obtain ⟨-, hroute⟩ := h
  cases hexternal : c.externalId? with
  | none =>
    obtain ⟨answer, d, w₁, hrun, hd, hterminal, htold⟩ := run_requestAndFinalize hs hc user
    rw [killRunning_of_none hexternal, run_bindJob, hrun]
    exact ⟨answer.getD .killed, d, hd, hterminal, htold, .inl rfl⟩
  | some external =>
    cases hswarm : c.swarm with
    | false => simp [hswarm, hexternal] at hroute
    | true =>
      rw [hswarm, hexternal] at hroute
      let w₁ : World σ := { w with outside := (s.engine .ping w.outside).2 }
      obtain ⟨answer, d, w₂, hrun, hd, hterminal, htold⟩ :=
        run_requestAndFinalize (w := w₁) hs hc user
      have hping : (Job.engine .ping).run.run s w = (.ok (), w₁) := by
        rw [run_engine, hroute]
        rfl
      -- the removal comes last, and whatever the engine answers the record stays as it is then
      rw [killRunning_of_service hswarm hexternal, run_bindJob, hping]
      simp only
      rw [run_bindJob, hrun]
      simp only
      rw [run_bindJob, run_engine]
      refine ⟨answer.getD .killed, d, ?_, hterminal, htold, ?_⟩
      · cases (s.engine (.removeService external) w₂.outside).1 <;> exact hd
      · cases (s.engine (.removeService external) w₂.outside).1 with
        | error e => exact .inr ⟨.engine e, rfl⟩
        | ok _ => exact .inl rfl

/-- A kill that does not get to a finalization keeps the record or tells its status. -/
theorem killAnswered_of_not_killFinalizes (hs : s.Saves) (hc : w.store.get? id = some c)
    (h : ¬ KillFinalizes s w c) (user : String) :
    KillAnswered id c ((kill id user).run.run s w) := by
  by_cases hstopped : c.hasStopped
  · rw [run_kill_of_hasStopped s hc hstopped]
    exact .of_ok hc rfl
  rw [run_kill_of_not_hasStopped s hc hstopped]
  cases hexternal : c.externalId? with
  | none =>
    refine absurd ⟨hstopped, ?_⟩ h
    rw [hexternal]
    cases c.swarm <;> trivial
  | some external =>
    cases hswarm : c.swarm with
    | false => exact killAnswered_plain hs hc hswarm hexternal user
    | true =>
      -- the engine does not answer, and the kill goes no further
      cases hping : (s.engine .ping w.outside).1 with
      | ok _ =>
        refine absurd ⟨hstopped, ?_⟩ h
        rw [hswarm, hexternal]
        exact hping
      | error e =>
        have hrun : (Job.engine .ping).run.run s w =
            (.error (.engine e), { w with outside := (s.engine .ping w.outside).2 }) := by
          rw [run_engine, hping]
          rfl
        have hkill : (killRunning id user c).run.run s w =
            (.error (.engine e), { w with outside := (s.engine .ping w.outside).2 }) := by
          rw [killRunning_of_service hswarm hexternal, run_bindJob, hrun]
        rw [hkill]
        exact .of_error hc

/-- The answer to a kill holds unless the kill got to a finalization and then failed, which the
removal of a service alone can do, or the history of the record led to an end that its status did
not show. After a kill that got to a finalization every later one is answered from the record and
asks nothing of the engine. -/
theorem killAnswered_iff (hs : s.Saves) (hc : w.store.get? id = some c) (user : String) :
    (KillAnswered id c ((kill id user).run.run s w) ↔
      ¬ (KillFinalizes s w c ∧
        ((∃ e, ((kill id user).run.run s w).1 = .error e) ∨
          c.withStatus.status = .complete ∨ c.withStatus.status = .failed))) ∧
    (KillFinalizes s w c → ∃ status, status.isTerminal = true ∧ ∀ other,
      (kill id other).run.run s ((kill id user).run.run s w).2 =
        (.ok status, ((kill id user).run.run s w).2)) := by
  by_cases h : KillFinalizes s w c
  · have hrun := run_kill_of_not_hasStopped s hc h.1 user
    obtain ⟨told, d, hd, hterminal, htold, hanswer⟩ :=
      run_killRunning_of_killFinalizes hs hc h user
    rw [← hrun] at hd hanswer
    -- the record had not stopped before, and is at its end now
    have hfailed : ∀ e, ((kill id user).run.run s w).1 = .error e →
        ¬ KillAnswered id c ((kill id user).run.run s w) := by
      intro e he hanswered
      obtain ⟨d', hd', -, hstatus, -⟩ := hanswered.kept e he
      obtain rfl : d = d' := Option.some.inj (hd.symm.trans hd')
      exact h.1 (Container.hasStopped_of_isTerminal (hstatus ▸ hterminal))
    refine ⟨⟨fun hanswered hwrong => ?_, fun hnot => ?_⟩, fun _ => ⟨d.status, hterminal, ?_⟩⟩
    · rcases hanswer with hok | ⟨e, he⟩
      · obtain ⟨d', hd', hstatus⟩ := hanswered.told told hok
        obtain rfl : d = d' := Option.some.inj (hd.symm.trans hd')
        obtain ⟨hcomplete, hnotFailed⟩ := htold.1 hstatus
        rcases hwrong.2 with ⟨e, he⟩ | hended | hended
        · exact hfailed e he hanswered
        · exact hcomplete hended
        · exact hnotFailed hended
      · exact hfailed e he hanswered
    · rcases hanswer with hok | ⟨e, he⟩
      · have hopen : c.withStatus.status ≠ .complete ∧ c.withStatus.status ≠ .failed :=
          ⟨fun he => hnot ⟨h, .inr (.inl he)⟩, fun he => hnot ⟨h, .inr (.inr he)⟩⟩
        refine ⟨fun e he => absurd ⟨h, .inl ⟨e, he⟩⟩ hnot, fun status hok' => ?_⟩
        obtain rfl : told = status := Except.ok.inj (hok.symm.trans hok')
        exact ⟨d, hd, htold.2 hopen⟩
      · exact absurd ⟨h, .inl ⟨e, he⟩⟩ hnot
    · exact run_kill_of_hasStopped s hd (Container.hasStopped_of_isTerminal hterminal)
  · refine ⟨⟨fun _ hfinalizes => h hfinalizes.1, fun _ => ?_⟩, fun hfinalizes => absurd hfinalizes h⟩
    exact killAnswered_of_not_killFinalizes hs hc h user

/-! ## A service that stays -/

/-- Surroundings whose engine answers and removes no service. -/
def keeping : Surroundings Unit :=
  { Surroundings.still with
    engine := fun
      | .ping, _ => (.ok (), ())
      | .removeService service, _ => (.error (.serviceNotFound service), ())
      | _, _ => (.error .notConfigured, ()) }

/-- A service is tracked, and nothing else happens. -/
def serving : World Unit where
  store := serviceStore
  outside := ()

/-- The service that could not be removed is recorded as killed. -/
theorem not_killAnswered_service :
    ((kill 1 "alice").run.run keeping serving).1 = .error (.engine (.serviceNotFound "s1")) ∧
      ¬ KillAnswered 1 service ((kill 1 "alice").run.run keeping serving) := by
  have herror : ((kill 1 "alice").run.run keeping serving).1 =
      .error (.engine (.serviceNotFound "s1")) := by rfl
  have hstatus : (((kill 1 "alice").run.run keeping serving).2.store.get? 1).map
      Container.status = some .killed := by rfl
  refine ⟨herror, fun hanswered => ?_⟩
  obtain ⟨d, hd, -, hkept, -⟩ := hanswered.kept _ herror
  rw [hd, Option.map_some, hkept] at hstatus
  cases hstatus

theorem killAnswered_iff_service :
    keeping.Saves ∧ serving.store.get? 1 = some service ∧
      (KillAnswered 1 service ((kill 1 "alice").run.run keeping serving) ↔
        ¬ (KillFinalizes keeping serving service ∧
          ((∃ e, ((kill 1 "alice").run.run keeping serving).1 = .error e) ∨
            service.withStatus.status = .complete ∨ service.withStatus.status = .failed))) ∧
      ∃ status, status.isTerminal = true ∧ ∀ other,
        (kill 1 other).run.run keeping ((kill 1 "alice").run.run keeping serving).2 =
          (.ok status, ((kill 1 "alice").run.run keeping serving).2) := by
  have hsaves : keeping.Saves := Surroundings.still_saves
  have hfinalizes : KillFinalizes keeping serving service := ⟨by decide, rfl⟩
  obtain ⟨hiff, hlater⟩ := killAnswered_iff (w := serving) hsaves get?_serviceStore "alice"
  exact ⟨hsaves, get?_serviceStore, hiff, hlater hfinalizes⟩

end Tracker

end Mooring
