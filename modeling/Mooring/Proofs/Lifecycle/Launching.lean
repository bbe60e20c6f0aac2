import Mooring.Lifecycle.Launcher
import Mooring.Proofs.Lifecycle.Deeds
import Mooring.Proofs.Lifecycle.Finalizing
import Mooring.Proofs.Store.Addition

set_option autoImplicit false

/-!
# How a launch ends

A launch makes its command ready, adds the record, has the engine create what the command asks for,
notes its identifier in the record, and starts it unless it is a service. Where changes are saved,
each way in which a launch can end is told by what the engine was asked and answered: the store is
as it was, or has one more record that says how far the launch got (`launch_ends`).
-/

namespace Mooring

open Routine

variable {σ : Type} {s : Surroundings σ} {w : World σ} {c d : Container} {id : Int}

/-- Whether an action makes a command ready for the engine. -/
def Action.IsPreparing : Action → Prop
  | .issueToken _ | .makeBuildDirectory => True
  | _ => False

namespace Container

theorem containerId_of_append? {e : HistoryEntry} (h : c.append? e = some d) :
    d.containerId = c.containerId ∧ d.serviceId = c.serviceId ∧ d.swarm = c.swarm := by
  rw [eq_of_append? h]
  exact ⟨rfl, rfl, rfl⟩

/-- An entry of this system gives the record its status. -/
theorem status_of_append?_system {status : Status} {message : Option String} {now : Instant}
    (h : c.append? (Tracker.systemEntry status message now) = some d) : d.status = status := by
  have hstatus := statusOf_of_append?_system h rfl
  rw [status_of_append? h, hstatus]
  rfl

end Container

namespace Launcher

variable {l : Launcher} {user : String} {r : Resolved}

/-! ## Stages -/

/-- Start what the engine created, if it has to be started, and answer with the record. -/
def start (l : Launcher) (id : Int) (external : String) : Job Container := do
  if !l.swarm then
    orGiveUp id "Failed to start" (Job.engine (.startContainer external))
  Job.need id

/-- Note the identifier of what the engine created, and start it. -/
def proceed (l : Launcher) (id : Int) (external : String) : Job Container := do
  let _ ← Job.update id (l.withEngineId external)
  l.start id external

/-- Have the engine create what the record of an identifier is about, and go on with it. -/
def complete (l : Launcher) (r : Resolved) (id : Int) : Job Container := do
  let external ← orGiveUp id "Failed to create" (l.create r)
  l.proceed id external

/-- Add the record of a command that is ready, and go on with it. -/
def register (l : Launcher) (user : String) (r : Resolved) : Job Container := do
  let id ← Job.attempt .store (Routine.ask (.insert (l.firstRecord user r)))
  l.complete r id

/-- Launch a command that is ready, if the engine can be reached. -/
def submit (l : Launcher) (user : String) (r : Resolved) : Job Container := do
  Job.engine .ping
  l.register user r

theorem launch_eq (l : Launcher) (user : String) (r : Resolved) :
    l.launch user r = l.prepare user r >>= l.submit user :=
  rfl

theorem start_of_swarm (h : l.swarm = true) (id : Int) (external : String) :
    l.start id external = Job.need id := by
  unfold start
  simp only [h]
  rfl

theorem start_of_plain (h : l.swarm = false) (id : Int) (external : String) :
    l.start id external =
      orGiveUp id "Failed to start" (Job.engine (.startContainer external)) >>= fun _ =>
        Job.need id := by
  unfold start
  simp only [h]
  rfl

/-! ## Making a command ready -/

theorem preparing_bindMount (l : Launcher) (r : Resolved) (m : Resolved.Mount) :
    (l.bindMount r m).run.All Action.IsPreparing := by
  have hpath : (hostPathOf m).run.All Action.IsPreparing := by
    unfold hostPathOf
    cases m.hostPath with
    | some path => trivial
    | none => exact ⟨trivial, fun _ => trivial⟩
  exact All.bindJob hpath fun _ => trivial

theorem preparing_mounts (l : Launcher) (mounts : List Resolved.Mount) (r : Resolved) :
    (mounts.foldlM l.bindMount r : Job Resolved).run.All Action.IsPreparing := by
  induction mounts generalizing r with
  | nil => trivial
  | cons m rest ih =>
    rw [List.foldlM_cons]
    exact All.bindJob (preparing_bindMount l r m) ih

/-- To make a command ready takes a token and directories. -/
theorem preparing_prepare (l : Launcher) (user : String) (r : Resolved) :
    (l.prepare user r).run.All Action.IsPreparing :=
  All.bindJob ⟨trivial, fun _ => trivial⟩ fun _ => preparing_mounts l r.mounts _

/-- Whether an error says that a command could not be made ready. -/
def IsUnready (user : String) (e : Error) : Prop :=
  (∃ causes, e = .noToken user causes) ∨ ∃ err, e = .store err

theorem failsWith_mounts (l : Launcher) (mounts : List Resolved.Mount) (r : Resolved) :
    Job.FailsWith (IsUnready user) (mounts.foldlM l.bindMount r) := by
  induction mounts generalizing r with
  | nil => exact Job.failsWith_pure r
  | cons m rest ih =>
    have hpath : Job.FailsWith (IsUnready user) (hostPathOf m) := by
      unfold hostPathOf
      cases m.hostPath with
      | some path => exact Job.failsWith_pure path
      | none => exact Job.failsWith_attempt (fun e => .inr ⟨e, rfl⟩) _
    rw [List.foldlM_cons]
    exact Job.FailsWith.bind (hpath.bind fun _ => Job.failsWith_pure _) ih

theorem failsWith_prepare (l : Launcher) (user : String) (r : Resolved) :
    Job.FailsWith (IsUnready user) (l.prepare user r) :=
  Job.FailsWith.bind (Job.failsWith_attempt (fun causes => .inl ⟨causes, rfl⟩) _) fun _ =>
    failsWith_mounts l r.mounts _

/-- Making a command ready asks nothing of the engine and leaves the store alone. -/
theorem runs_prepare (s : Surroundings σ) (w : World σ) (l : Launcher) (user : String)
    (r : Resolved) : ∃ result w', (l.prepare user r).run.Runs s w [] result w' ∧
      w'.store = w.store ∧ ∀ e, result = .error e → IsUnready user e := by
  have hall := preparing_prepare l user r
  have hcalls : (l.prepare user r).run.All Action.IsCallFree := hall.mono fun action h => by
    cases action <;> trivial
  have hstore : (l.prepare user r).run.All Action.SparesStore := hall.mono fun action h => by
    cases action <;> trivial
  obtain ⟨result, w', hruns, hw'⟩ := runs_of_all hcalls hstore s w
  refine ⟨result, w', hruns, hw', fun e he => ?_⟩
  have hfails := (failsWith_prepare l user r).run s w
  rw [hruns.run] at hfails
  exact hfails e he

/-! ## The record -/

theorem firstRecord_eq (l : Launcher) (user : String) (r : Resolved) (now : Instant) :
    l.firstRecord user r now =
      { Container.ofResolved now r user with
        swarm := l.swarm
        environment := r.environment.modify passVariable fun _ => Resolved.mask
        history := [Tracker.systemEntry .created none now] } :=
  rfl

/-- Where changes are saved, the record is added. -/
theorem runs_insert (hs : s.Saves) (hfree : w.store.get? w.store.nextId = none)
    (record : Instant → Container) :
    ∃ w', (Job.attempt .store (Routine.ask (.insert record)) : Job Int).run.Runs s w []
        (.ok w.store.nextId) w' ∧
      w.store.Adds (w.store.numbered (record (s.now w.outside))) w'.store := by
  have hinsert := Store.insert_of_saves (s := w.store) w.outside hs (record (s.now w.outside))
  let c := w.store.numbered (record (s.now w.outside))
  let w' : World σ := { w with
    store := (w.store.skipped.indexed c).put c
    outside := (s.shelf.save c w.outside).2 }
  refine ⟨w', ⟨?_, rfl⟩, Store.adds_insert hfree _⟩
  exact congrArg (fun r => ((w.afterStore r).1.mapError Error.store, (w.afterStore r).2)) hinsert

theorem runs_update (hs : s.Saves) (hc : w.store.get? id = some c) {f : Container → Container}
    (hid : (f c).databaseId = c.databaseId) :
    ∃ w', (Job.update id f).run.Runs s w [] (.ok (f c)) w' ∧
      w'.store = (w.store.indexed (f c)).put (f c) := by
  have hupdate := Store.update_of_saves w.outside hs hc f
  have hbecomes := Store.becomes_indexed hc hid
  refine ⟨{ w with
    store := (w.store.indexed (f c)).put (f c)
    outside := (s.shelf.save (f c) w.outside).2 }, ⟨?_, rfl⟩, rfl⟩
  rw [Tracker.run_update, hupdate]
  simp only [World.afterStore, World.withRecord, hbecomes.record]
  rfl

theorem runs_need (s : Surroundings σ) (hc : w.store.get? id = some c) :
    (Job.need id).run.Runs s w [] (.ok c) w := by
  have hall : (Job.need id).run.All Action.IsCallFree := by
    refine ⟨trivial, fun answer => ?_⟩
    cases answer <;> trivial
  exact ⟨Tracker.run_need s hc, asked_of_all hall s w⟩

/-- What is recorded when a launch is given up. -/
def failure (what : String) (e : Error) (now : Instant) : HistoryEntry :=
  Tracker.systemEntry .failed s!"{what}: {e.message}" now

/-- Giving up records why, and fails with that. -/
theorem runs_giveUp {α : Type} (hs : s.Saves) (hc : w.store.get? id = some c) (what : String)
    (e : Error) : ∃ d w' now, (giveUp id what e : Job α).run.Runs s w [] (.error e) w' ∧
      c.append? (failure what e now) = some d ∧ w'.store = w.store.put d := by
  rcases Store.append_of_saves w.outside hs hc (failure what e (s.now w.outside)) with
    ⟨hnone, -⟩ | ⟨d, hd, happend⟩
  · rw [Container.append?_eq_none_iff, Container.records_of_externalTime rfl] at hnone
    cases hnone
  · let w' : World σ := { w with
      store := w.store.put d
      outside := (s.shelf.save d w.outside).2 }
    have hrun : (Job.append id (failure what e)).run.Runs s w [] (.ok (some ⟨c.status, d.status⟩))
        w' := by
      refine ⟨?_, rfl⟩
      rw [Tracker.run_append, happend]
      rfl
    have hthrow : (throw e : Job α).run.Runs s w' [] (.error e) w' := ⟨rfl, rfl⟩
    exact ⟨d, w', _, Runs.bindJob hrun hthrow, hd, rfl⟩

/-! ## The ends of a launch -/

/-- The call that creates what a command asks for, and its answer. -/
def creation (l : Launcher) (r : Resolved) (answer : Except EngineError String) : Deed :=
  if l.swarm then .ofCall (.createService r) answer else .ofCall (.createContainer r) answer

/-- The history of a record that was added. -/
def begun (now : Instant) : List HistoryEntry :=
  [Tracker.systemEntry .created none now]

/-- Whether a record knows the engine by an identifier, and by no other. -/
def IsAt (l : Launcher) (external : Option String) (c : Container) : Prop :=
  c.containerId = (if l.swarm then none else external) ∧
    c.serviceId = if l.swarm then external else none

/-- How a launch can end, by the command as it was made ready: what the engine was asked and
answered, the value, and the store. -/
inductive Ends (l : Launcher) (user : String) (store : Store) :
    Except Error Resolved → List Deed → Except Error Container → Store → Prop
  | unready {e : Error} (unready : IsUnready user e) :
    Ends l user store (.error e) [] (.error e) store
  | noEngine {r : Resolved} {e : EngineError} :
    Ends l user store (.ok r) [.ofCall .ping (.error e)] (.error (.engine e)) store
  | notCreated {r : Resolved} {e : EngineError} {c : Container} {after : Store} {t t' : Instant}
      (adds : store.Adds c after) (status : c.status = .failed)
      (history : c.history = begun t ++ [failure "Failed to create" (.engine e) t'])
      (nowhere : l.IsAt none c) :
    Ends l user store (.ok r) [.ofCall .ping (.ok ()), l.creation r (.error e)]
      (.error (.engine e)) after
  | notStarted {r : Resolved} {external : String} {e : EngineError} {c : Container}
      {after : Store} {t t' : Instant} (plain : l.swarm = false) (adds : store.Adds c after)
      (status : c.status = .failed)
      (history : c.history = begun t ++ [failure "Failed to start" (.engine e) t'])
      (there : l.IsAt (some external) c) :
    Ends l user store (.ok r) [.ofCall .ping (.ok ()), l.creation r (.ok external),
      .ofCall (.startContainer external) (.error e)] (.error (.engine e)) after
  | launched {r : Resolved} {external : String} {c : Container} {after : Store} {t : Instant}
      (adds : store.Adds c after) (status : c.status = .created) (history : c.history = begun t)
      (there : l.IsAt (some external) c) (found : after.find? external = some c.databaseId)
      (got : after.get? c.databaseId = some c) :
    Ends l user store (.ok r) ([.ofCall .ping (.ok ()), l.creation r (.ok external)] ++
      if l.swarm then [] else [.ofCall (.startContainer external) (.ok ())]) (.ok c) after

section

variable {store : Store} {external : String} {t : Instant}

theorem IsAt.mem_externalIds (h : l.IsAt (some external) c) : external ∈ c.externalIds := by
  obtain ⟨hcontainer, hservice⟩ := h
  unfold Container.externalIds
  rw [hcontainer, hservice]
  cases l.swarm <;> simp

theorem IsAt.of_append? {o : Option String} {e : HistoryEntry} (h : l.IsAt o c)
    (hd : c.append? e = some d) : l.IsAt o d := by
  obtain ⟨hcontainer, hservice, -⟩ := Container.containerId_of_append? hd
  exact ⟨hcontainer.trans h.1, hservice.trans h.2⟩

/-- The identifier that the engine gave is all that changes in a record. -/
theorem withEngineId_eq (l : Launcher) (external : String) (c : Container) :
    l.withEngineId external c = { c with
      containerId := (l.withEngineId external c).containerId
      serviceId := (l.withEngineId external c).serviceId } := by
  unfold withEngineId
  cases l.swarm <;> rfl

theorem databaseId_withEngineId (l : Launcher) (external : String) (c : Container) :
    (l.withEngineId external c).databaseId = c.databaseId := by
  rw [l.withEngineId_eq]

theorem status_withEngineId (l : Launcher) (external : String) (c : Container) :
    (l.withEngineId external c).status = c.status := by
  rw [l.withEngineId_eq]

theorem history_withEngineId (l : Launcher) (external : String) (c : Container) :
    (l.withEngineId external c).history = c.history := by
  rw [l.withEngineId_eq]

theorem isAt_withEngineId (h : l.IsAt none c) (external : String) :
    l.IsAt (some external) (l.withEngineId external c) := by
  obtain ⟨hcontainer, hservice⟩ := h
  unfold IsAt withEngineId
  cases hswarm : l.swarm <;> simp_all

/-- The first record is not known to the engine. -/
theorem isAt_firstRecord (l : Launcher) (store : Store) (user : String) (r : Resolved)
    (now : Instant) : l.IsAt none (store.numbered (l.firstRecord user r now)) := by
  constructor <;> exact (ite_self _).symm

theorem runs_create (s : Surroundings σ) (w : World σ) (l : Launcher) (r : Resolved) :
    ∃ answer w', (l.create r).run.Runs s w [l.creation r answer] (answer.mapError .engine) w' ∧
      w'.store = w.store := by
  unfold create creation
  cases l.swarm with
  | true => exact runs_engine s w (.createService r)
  | false => exact runs_engine s w (.createContainer r)

/-- What is given up leaves a failed record in the place of the added one. -/
theorem runs_giveUp_added {α : Type} (hs : s.Saves)
    (hadds : store.Adds c w.store) (what : String) (e : Error) :
    ∃ d w' now, (giveUp store.nextId what e : Job α).run.Runs s w [] (.error e) w' ∧
      c.append? (failure what e now) = some d ∧ store.Adds d w'.store ∧ d.status = .failed ∧
      d.history = c.history ++ [failure what e now] := by
  obtain ⟨d, w', now, hruns, hd, hstore⟩ := runs_giveUp hs (hadds.get?) what e
  refine ⟨d, w', now, hruns, hd, ?_, Container.status_of_append?_system hd,
    Container.history_of_append? hd⟩
  rw [hstore]
  exact hadds.put_of_eq (Container.databaseId_of_append? hd)
    (Container.externalIds_of_append? hd)

theorem ends_start (hs : s.Saves) (hadds : store.Adds c w.store)
    (hstatus : c.status = .created) (hhistory : c.history = begun t)
    (hthere : l.IsAt (some external) c) (user : String) (r : Resolved) :
    ∃ calls result w', (l.start store.nextId external).run.Runs s w calls result w' ∧
      Ends l user store (.ok r) ([.ofCall .ping (.ok ()), l.creation r (.ok external)] ++ calls) result
        w'.store := by
  have hfound : w.store.find? external = some c.databaseId := by
    rw [hadds.find?, if_pos hthere.mem_externalIds]
  have hgot : w.store.get? c.databaseId = some c := by
    rw [hadds.databaseId]
    exact hadds.get?
  have hends : Ends l user store (.ok r) ([.ofCall .ping (.ok ()), l.creation r (.ok external)] ++
      if l.swarm then [] else [.ofCall (.startContainer external) (.ok ())]) (.ok c) w.store :=
    .launched hadds hstatus hhistory hthere hfound hgot
  -- a service runs as soon as it is created, a container has to be started
  cases hswarm : l.swarm with
  | true =>
    rw [start_of_swarm hswarm]
    rw [if_pos hswarm] at hends
    exact ⟨_, _, w, runs_need s (hadds.get?), hends⟩
  | false =>
    rw [start_of_plain hswarm]
    rw [if_neg (by simp [hswarm])] at hends
    obtain ⟨answer, w₁, hstart, hstore⟩ := runs_engine s w (.startContainer external)
    rw [← hstore] at hadds hends
    cases answer with
    | ok answer =>
      have hneed := runs_need s (hadds.get?)
      exact ⟨_, _, w₁, Runs.bindJob (Runs.tryCatch_ok hstart _) hneed, hends⟩
    | error e =>
      obtain ⟨d, w₂, now, hruns, hd, hadds', hfailed, hlonger⟩ :=
        runs_giveUp_added (α := Unit) hs hadds "Failed to start" (.engine e)
      refine ⟨_, _, w₂, Runs.bindJob_error (Runs.tryCatch_error hstart hruns) _, ?_⟩
      exact .notStarted hswarm hadds' hfailed (hhistory ▸ hlonger) (hthere.of_append? hd)

theorem ends_proceed (hs : s.Saves) (hadds : store.Adds c w.store)
    (hstatus : c.status = .created) (hhistory : c.history = begun t) (hnowhere : l.IsAt none c)
    (external user : String) (r : Resolved) :
    ∃ calls result w', (l.proceed store.nextId external).run.Runs s w calls result w' ∧
      Ends l user store (.ok r) ([.ofCall .ping (.ok ()), l.creation r (.ok external)] ++ calls) result
        w'.store := by
  have hid := l.databaseId_withEngineId external c
  obtain ⟨w₁, hupdate, hstore⟩ := runs_update hs (hadds.get?) hid
  have hadds₁ : store.Adds (l.withEngineId external c) w₁.store := by
    rw [hstore]
    refine hadds.put hid fun name hname => ?_
    -- nothing led to the record before
    obtain ⟨hcontainer, hservice⟩ := hnowhere
    unfold Container.externalIds at hname
    rw [hcontainer, hservice] at hname
    cases hswarm : l.swarm <;> simp [hswarm] at hname
  obtain ⟨calls, result, w₂, hstart, hends⟩ := ends_start hs hadds₁
    ((l.status_withEngineId external c).trans hstatus)
    ((l.history_withEngineId external c).trans hhistory) (isAt_withEngineId hnowhere external)
    user r
  exact ⟨calls, result, w₂, Runs.bindJob hupdate hstart, hends⟩

theorem ends_register (hs : s.Saves) (hfree : w.store.get? w.store.nextId = none) (user : String)
    (r : Resolved) :
    ∃ calls result w', (l.register user r).run.Runs s w calls result w' ∧
      Ends l user w.store (.ok r) ([.ofCall .ping (.ok ())] ++ calls) result w'.store := by
  obtain ⟨w₁, hinsert, hadds⟩ := runs_insert hs hfree (l.firstRecord user r)
  have hnowhere := isAt_firstRecord l w.store user r (s.now w.outside)
  obtain ⟨answer, w₂, hcreate, hstore⟩ := runs_create s w₁ l r
  rw [← hstore] at hadds
  cases answer with
  | ok external =>
    obtain ⟨calls, result, w₃, hproceed, hends⟩ :=
      ends_proceed hs hadds rfl rfl hnowhere external user r
    exact ⟨_, result, w₃, Runs.bindJob hinsert
      (Runs.bindJob (Runs.tryCatch_ok hcreate _) hproceed), hends⟩
  | error e =>
    obtain ⟨d, w₃, now, hruns, hd, hadds', hfailed, hlonger⟩ :=
      runs_giveUp_added (α := String) hs hadds "Failed to create" (.engine e)
    refine ⟨_, _, w₃, Runs.bindJob hinsert
      (Runs.bindJob_error (Runs.tryCatch_error hcreate hruns) _), ?_⟩
    exact .notCreated hadds' hfailed hlonger (hnowhere.of_append? hd)

end

/-- A launch leaves the store as it was, before the engine was asked to create anything; or it adds
one record, which says why the engine created or started nothing, or how the engine knows what was
launched. -/
theorem launch_ends (hs : s.Saves) (hfree : w.store.get? w.store.nextId = none) (l : Launcher)
    (user : String) (r : Resolved) :
    Ends l user w.store ((l.prepare user r).run.run s w).1 ((l.launch user r).run.asked s w)
      ((l.launch user r).run.run s w).1 ((l.launch user r).run.run s w).2.store := by
  have hruns : ∃ calls result w', (l.launch user r).run.Runs s w calls result w' ∧
      Ends l user w.store ((l.prepare user r).run.run s w).1 calls result w'.store := by
    obtain ⟨prepared, w₁, hprepare, hstore, hfails⟩ := runs_prepare s w l user r
    rw [launch_eq, hprepare.run]
    cases prepared with
    | error e =>
      refine ⟨_, _, w₁, Runs.bindJob_error hprepare _, ?_⟩
      rw [hstore]
      exact .unready (hfails e rfl)
    | ok r =>
      obtain ⟨answer, w₂, hping, hstore₂⟩ := runs_engine s w₁ .ping
      rw [← hstore, ← hstore₂]
      cases answer with
      | error e =>
        exact ⟨_, _, w₂, Runs.bindJob hprepare (Runs.bindJob_error hping _), .noEngine⟩
      | ok answer =>
        have hfree₂ : w₂.store.get? w₂.store.nextId = none := by
          rw [hstore₂, hstore]
          exact hfree
        obtain ⟨calls, result, w₃, hregister, hends⟩ := ends_register hs hfree₂ user r
        exact ⟨_, result, w₃, Runs.bindJob hprepare (Runs.bindJob hping hregister), hends⟩
  obtain ⟨calls, result, w', hlaunch, hends⟩ := hruns
  rw [hlaunch.run, hlaunch.asked]
  exact hends

section NotStarted

open Tracker

/-- Surroundings whose engine creates a container and cannot start it. -/
def creating : Surroundings Unit :=
  { Surroundings.still with
    engine := fun
      | .ping, _ => (.ok (), ())
      | .createContainer _, _ => (.ok "c1", ())
      | .startContainer container, _ => (.error (.containerNotFound container), ())
      | _, _ => (.error .notConfigured, ()) }

/-- A command with a directory of its own. -/
def scratching : Resolved :=
  { commandId := 1, commandName := "sort", image := "i", commandLine := "l",
    mounts := [⟨"scratch", "/scratch", true, none, none, none⟩] }

/-- How it is launched: as a container. -/
def plain : Launcher :=
  { siteUrl := "https://site" }

/-- The world with the record of a service. -/
def beside : World Unit where
  store := serviceStore
  outside := ()

/-- The record beside that of the service says that the container was not started. -/
theorem launch_ends_notStarted :
    creating.Saves ∧ beside.store.get? beside.store.nextId = none ∧
      Ends plain "ann" beside.store ((plain.prepare "ann" scratching).run.run creating beside).1
        ((plain.launch "ann" scratching).run.asked creating beside)
        (.error (.engine (.containerNotFound "c1")))
        ((plain.launch "ann" scratching).run.run creating beside).2.store := by
  have hsaves : creating.Saves := Surroundings.still_saves
  have hfree : beside.store.get? beside.store.nextId = none := by decide
  exact ⟨hsaves, hfree, launch_ends hsaves hfree plain "ann" scratching⟩

end NotStarted

end Launcher

end Mooring
