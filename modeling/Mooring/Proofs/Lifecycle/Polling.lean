import Mooring.Proofs.Lifecycle.Relay

set_option autoImplicit false

/-!
# No event is missed by a poll

A poll asks for the events since the last check that was noted, in whole seconds, and notes the
instant at which it started once it has sent them. Whatever goes wrong in polls on the way, the
times that are noted stand for the events that were sent (`Relay.Sound`): what happened by then has
been sent. So after a poll that succeeds, everything that happened by the instant of the poll has
been sent by this poll or an earlier one (`Relay.sent_of_poll_ok`).
-/

namespace Mooring

/-! ## What a poll does -/

namespace Poller

/-- Whether an action belongs to a poll of services. -/
def IsServiceAction : Action → Prop
  | .openServices | .engine (.serviceTasks _) => True
  | .send (.task _ _) | .send (.missing _) => True
  | _ => False

/-- A poll of services is gentle. -/
theorem isGentle_of_isServiceAction {action : Action} (h : IsServiceAction action) :
    action.IsGentle := by
  cases action with
  | openServices | engine | send => trivial
  | _ => exact h.elim

/-- Nothing but sending leaves a trace in the log. -/
theorem Log.observe_service (l : Log) {action : Action} (h : IsServiceAction action)
    (answer : action.Answer) :
    (l.observe action answer).loaded = l.loaded ∧ (l.observe action answer).reading = l.reading ∧
      (l.observe action answer).noted = l.noted ∧ l.sent ⊆ (l.observe action answer).sent := by
  cases action with
  | openServices => exact ⟨rfl, rfl, rfl, List.Subset.refl _⟩
  | engine call => exact ⟨rfl, rfl, rfl, List.Subset.refl _⟩
  | send e =>
    cases answer with
    | false => exact ⟨rfl, rfl, rfl, List.Subset.refl _⟩
    | true => exact ⟨rfl, rfl, rfl, List.subset_append_left _ _⟩
  | _ => exact h.elim

theorem all_send {e : EngineEvent} (h : IsServiceAction (.send e)) :
    (send e).run.All IsServiceAction := by
  refine Routine.All.bindJob (.ask h) fun ok => ?_
  cases ok <;> trivial

theorem all_pollService (c : Container) : (pollService c).run.All IsServiceAction := by
  unfold pollService
  cases c.serviceId with
  | none => trivial
  | some service =>
    refine Routine.All.bindJob (.ask trivial) fun tasks => ?_
    rcases tasks with e | _ | ⟨t, rest⟩
    · cases e with
      | serviceNotFound id => exact Routine.All.bindJob (all_send trivial) fun _ => trivial
      | _ => trivial
    · trivial
    · exact Routine.All.bindJob (all_send trivial) fun _ => trivial

/-- A poll of services asks for nothing but services, and sends nothing but what it learns of
them. -/
theorem all_pollServices : pollServices.run.All IsServiceAction := by
  refine Routine.All.bindJob (.ask trivial) fun cs => ?_
  generalize 0 = sent
  induction cs generalizing sent with
  | nil => trivial
  | cons c rest ih =>
    rw [List.foldlM_cons]
    exact Routine.All.bindJob (Routine.All.bindJob (all_pollService c) fun _ => trivial) ih

/-- What is left of a poll of events after the clock was read. -/
def askEvents (last : Option Instant) (now : Instant) : Job Nat := do
  let events ← Job.engine (.events (last.getD .epoch) now)
  events.forM fun e => send (.container e)
  Job.attempt .server (Routine.ask (.saveCheckTime now))
  return events.length

/-- What is left of a poll of events when some of them are still to be sent. -/
def deliver (now : Instant) (count : Nat) (rest : List ContainerEvent) : Job Nat := do
  rest.forM fun e => send (.container e)
  Job.attempt .server (Routine.ask (.saveCheckTime now))
  return count

/-- What is left of a poll after the configuration was read. -/
def afterLoad : Except ServerError (Option Server) → Routine (Except Error Nat)
  | .error e => .done (.error (.server e))
  | .ok none => .done (.error (.engine .notConfigured))
  | .ok (some server) =>
    if server.swarmMode then pollServices.run else (pollEvents server.lastEventCheck).run

/-- What is left of a poll after the engine was asked for events. -/
def afterEvents (now : Instant) :
    Except EngineError (List ContainerEvent) → Routine (Except Error Nat)
  | .error e => .done (.error (.engine e))
  | .ok events => (deliver now events.length events).run

/-- What is left of a poll after the time of the check was to be noted. -/
def afterCheck (count : Nat) : Except ServerError Unit → Routine (Except Error Nat)
  | .error e => .done (.error (.server e))
  | .ok () => .done (.ok count)

theorem run_poll : poll.run = .step .loadServer afterLoad := by
  show Routine.step _ _ = _
  congr 1
  funext answer
  rcases answer with e | _ | server
  · rfl
  · rfl
  · show (if server.swarmMode = true then pollServices else pollEvents _ : Job Nat) =
      if server.swarmMode = true then pollServices.run else (pollEvents _).run
    cases server.swarmMode <;> rfl

theorem run_pollEvents (last : Option Instant) :
    (pollEvents last).run = .step .clock fun now => (askEvents last now).run :=
  rfl

theorem run_askEvents (last : Option Instant) (now : Instant) :
    (askEvents last now).run =
      .step (.engine (.events (last.getD .epoch) now)) (afterEvents now) := by
  show Routine.step _ _ = _
  congr 1
  funext answer
  cases answer <;> rfl

theorem run_deliver_cons (now : Instant) (count : Nat) (e : ContainerEvent)
    (rest : List ContainerEvent) :
    (deliver now count (e :: rest)).run = .step (.send (.container e)) fun answer =>
      if answer = true then (deliver now count rest).run else .done (.error .channelClosed) := by
  show Routine.step _ _ = _
  congr 1
  funext answer
  cases answer <;> rfl

theorem run_deliver_nil (now : Instant) (count : Nat) :
    (deliver now count []).run = .step (.saveCheckTime now) (afterCheck count) := by
  show Routine.step _ _ = _
  congr 1
  funext answer
  cases answer <;> rfl

/-! ## What a poll is good for -/

/-- Whether every event that occurred by an instant was sent; those from before 1970 do not
count. -/
def Covered (occurs : ContainerEvent → Instant → Prop) (sent : List EngineEvent) (time : Instant) :
    Prop :=
  ∀ e t, occurs e t → .epoch ≤ t → t ≤ time → .container e ∈ sent

theorem Covered.mono {occurs : ContainerEvent → Instant → Prop} {sent sent' : List EngineEvent}
    {time : Instant} (h : Covered occurs sent time) (hsent : sent ⊆ sent') :
    Covered occurs sent' time :=
  fun e t he hepoch ht => hsent (h e t he hepoch ht)

/-- How far a poll has got, and what has to be true of what was done before. -/
inductive Course (occurs : ContainerEvent → Instant → Prop) (l : Log) :
    Routine (Except Error Nat) → Prop
  | start : Course occurs l poll.run
  | services {t : Routine (Except Error Nat)} {server : Server} (loaded : l.loaded = some server)
      (swarm : server.swarmMode = true) (rest : t.All IsServiceAction) : Course occurs l t
  | events {server : Server} {last : Option Instant} (loaded : l.loaded = some server)
      (noted : ∀ time, last = some time → time ∈ l.noted) : Course occurs l (pollEvents last).run
  | asking {server : Server} {last : Option Instant} {now : Instant}
      (loaded : l.loaded = some server) (reading : l.reading = some now)
      (noted : ∀ time, last = some time → time ∈ l.noted) :
      Course occurs l (askEvents last now).run
  | delivering {server : Server} {now : Instant} {count : Nat} {rest : List ContainerEvent}
      (loaded : l.loaded = some server) (reading : l.reading = some now)
      (covers : ∀ e t, occurs e t → .epoch ≤ t → t ≤ now → .container e ∈ l.sent ∨ e ∈ rest) :
      Course occurs l (deliver now count rest).run
  | failed (e : Error) : Course occurs l (.done (.error e))
  | ended {server : Server} {now : Instant} {count : Nat} (loaded : l.loaded = some server)
      (reading : l.reading = some now) (covered : Covered occurs l.sent now) :
      Course occurs l (.done (.ok count))

/-- An action of a poll is gentle, or notes the time that the poll read from the clock. -/
theorem Course.action_cases {occurs : ContainerEvent → Instant → Prop} {l : Log} {action : Action}
    {next : action.Answer → Routine (Except Error Nat)}
    (h : Course occurs l (.step action next)) :
    action.IsGentle ∨ ∃ now, action = .saveCheckTime now ∧ l.reading = some now := by
  generalize hrest : Routine.step action next = rest at h
  -- where the poll has got decides which action comes next
  cases h with
  | start =>
    rw [run_poll] at hrest
    cases hrest
    exact .inl trivial
  | services loaded swarm rest =>
    subst hrest
    exact .inl (isGentle_of_isServiceAction rest.1)
  | events loaded noted =>
    cases hrest
    exact .inl trivial
  | asking loaded reading noted =>
    rw [run_askEvents] at hrest
    cases hrest
    exact .inl trivial
  | @delivering server now count rest loaded reading covers =>
    cases rest with
    | nil =>
      rw [run_deliver_nil] at hrest
      cases hrest
      exact .inr ⟨now, rfl, reading⟩
    | cons e rest =>
      rw [run_deliver_cons] at hrest
      cases hrest
      exact .inl trivial
  | failed e => cases hrest
  | ended loaded reading covered => cases hrest

end Poller

/-- What is assumed of the engine: an event carries the second in which it occurred, and asked for
events, the engine answers with all that have occurred in the seconds from one to the other, both
included. -/
structure Deployment.Reports {ε : Type} (d : Deployment ε)
    (occurs : ContainerEvent → Instant → Prop) : Prop where
  time : ∀ e t, occurs e t → e.time = t.seconds
  answers : ∀ now state since til es, (d.engine now (.events since til) state).1 = .ok es →
    ∀ e t, occurs e t → t ≤ now → since.seconds ≤ e.time → e.time ≤ til.seconds → e ∈ es

namespace Relay

open Poller

variable {ε : Type} {d : Deployment ε} {occurs : ContainerEvent → Instant → Prop}
  {fault : Store.Fault} {r r' : Relay ε} {action : Action}

/-! ## The configuration among the files -/

theorem isName_server : Files.IsName "server.json" :=
  Store.isName_of_length (by decide) (by decide)

theorem isName_containers : Files.IsName "containers" :=
  Store.isName_of_length (by decide) (by decide)

/-- The records have a directory of their own. -/
theorem parts_containersDir (s : Settings) :
    Files.parts s.containersDir = Files.parts s.dataDir ++ ["containers"] :=
  Files.parts_join s.dataDir isName_containers

/-- Saving a record leaves the configuration as it is. -/
theorem load_saveWith (d : Deployment ε) (fault : Store.Fault) (c : Container) (files : FileTree) :
    Server.load d.settings.serverPath
      (Store.saveWith d.settings.containersDir fault c files).2 =
        Server.load d.settings.serverPath files := by
  apply Server.load_congr isName_server
  have hne : ∀ name, Files.parts d.settings.dataDir ++ ["server.json"] ≠
      Files.parts d.settings.containersDir ++ [name] := by
    intro name hplace
    have hlength := congrArg List.length hplace
    simp [parts_containersDir] at hlength
  rw [FileTree.below?_eq_lookup isName_server, FileTree.below?_eq_lookup isName_server]
  exact Store.lookup_saveWith_of_ne fault (hne _) (hne _)

/-- Gentle actions leave the configuration as it is. -/
theorem load_perform (h : action.IsGentle) :
    Server.load d.settings.serverPath (r.perform d fault action).2.outside.files =
      Server.load d.settings.serverPath r.files := by
  rcases files_perform d fault r h with hfiles | ⟨c, hfiles⟩
  · rw [hfiles]
  · rw [hfiles]
    exact load_saveWith d fault c r.files

/-- What somebody else does leaves the configuration as it is, if it is reckoned with. -/
theorem load_act (h : r.Admits d (.act action fault)) :
    Server.load d.settings.serverPath (r.perform d fault action).2.outside.files =
      Server.load d.settings.serverPath r.files := by
  cases action with
  | insert record =>
    obtain ⟨c, hfiles⟩ := files_insert d fault r record
    rw [hfiles]
    exact load_saveWith d fault c r.files
  | _ => exact load_perform h

/-! ## What holds in every relay -/

/-- The times of checks that were noted, in the log and in the configuration, stand for the events
that were sent, and so does the progress of the poll. -/
structure Sound (d : Deployment ε) (occurs : ContainerEvent → Instant → Prop) (r : Relay ε) :
    Prop where
  clock : r.now.IsValid
  reading : ∀ time, r.log.reading = some time → time ≤ r.now ∧ time.IsValid
  configured : d.Configured r.log.noted r.files
  covered : ∀ time ∈ r.log.noted, Covered occurs r.log.sent time
  course : ∀ t, r.poll = some t → Course occurs r.log t
  gentle : ∀ h, r.handling = some h → h.rest.All Action.IsGentle

theorem IsFresh.sound (h : r.IsFresh d) : r.Sound d occurs where
  clock := h.clock
  reading := by
    intro time htime
    rw [h.log] at htime
    cases htime
  configured := by
    rw [h.log]
    exact h.configured
  covered := by
    intro time htime
    rw [h.log] at htime
    cases htime
  course := by
    intro t ht
    rw [h.poll] at ht
    cases ht
  gentle := by
    intro handling hhandling
    rw [h.handling] at hhandling
    cases hhandling

/-- What leaves the configuration and the times that were noted alone keeps a relay sound, if the
poll is where it should be. -/
theorem Sound.keep (h : r.Sound d occurs) (hnow : r'.now = r.now)
    (hload : Server.load d.settings.serverPath r'.files =
      Server.load d.settings.serverPath r.files)
    (hreading : ∀ time, r'.log.reading = some time → time ≤ r.now ∧ time.IsValid)
    (hnoted : r'.log.noted = r.log.noted) (hsent : r.log.sent ⊆ r'.log.sent)
    (hcourse : ∀ t, r'.poll = some t → Course occurs r'.log t)
    (hgentle : ∀ h, r'.handling = some h → h.rest.All Action.IsGentle) : r'.Sound d occurs where
  clock := hnow ▸ h.clock
  reading := by
    rw [hnow]
    exact hreading
  configured := by
    unfold Deployment.Configured
    rw [hnoted, hload]
    exact h.configured
  covered := by
    intro time htime
    rw [hnoted] at htime
    exact (h.covered time htime).mono hsent
  course := hcourse
  gentle := hgentle

/-- What neither polls nor changes the configuration keeps a relay sound. -/
theorem Sound.aside (h : r.Sound d occurs) (hnow : r'.now = r.now) (hpoll : r'.poll = r.poll)
    (hlog : r'.log = r.log) (hload : Server.load d.settings.serverPath r'.files =
      Server.load d.settings.serverPath r.files)
    (hgentle : ∀ h, r'.handling = some h → h.rest.All Action.IsGentle) : r'.Sound d occurs := by
  refine h.keep hnow hload ?_ ?_ ?_ ?_ hgentle
  · rw [hlog]
    exact h.reading
  · rw [hlog]
  · rw [hlog]
    exact List.Subset.refl _
  · rw [hlog, hpoll]
    exact h.course

/-! ## Steps of a poll -/

/-- The relay after an action of the poll in progress. -/
def polled (r : Relay ε) (world : World (Outside ε)) (rest : Routine (Except Error Nat)) (log : Log) :
    Relay ε :=
  { r with world, poll := some rest, log }

theorem move?_advancePoll [FileTree.Listing] {next : action.Answer → Routine (Except Error Nat)}
    (hpoll : r.poll = some (.step action next)) :
    r.move? d (.advancePoll fault) = some (r.polled (r.perform d fault action).2
      (next (r.perform d fault action).1) (r.log.observe action (r.perform d fault action).1)) := by
  unfold move?
  simp only [hpoll]
  rfl

theorem move?_advancePoll_done [FileTree.Listing] {result : Except Error Nat}
    (hpoll : r.poll = some (.done result)) : r.move? d (.advancePoll fault) = none := by
  unfold move?
  simp only [hpoll]

section Steps

variable {world : World (Outside ε)} {rest : Routine (Except Error Nat)} {log : Log}

theorem Sound.polled (h : r.Sound d occurs)
    (hload : Server.load d.settings.serverPath world.outside.files =
      Server.load d.settings.serverPath r.files)
    (hreading : log.reading = r.log.reading ∨ log.reading = some r.now)
    (hnoted : log.noted = r.log.noted) (hsent : r.log.sent ⊆ log.sent)
    (hcourse : Course occurs log rest) : (r.polled world rest log).Sound d occurs := by
  refine h.keep rfl hload ?_ hnoted hsent ?_ h.gentle
  · intro time htime
    rcases hreading with hsame | hnow
    · exact h.reading time (hsame ▸ htime)
    · obtain rfl : r.now = time := Option.some.inj (hnow.symm.trans htime)
      exact ⟨Instant.le_rfl, h.clock⟩
  · rintro _ ⟨⟩
    exact hcourse

/-- The configuration is read: the poll goes on from the time of the last check that is in it. -/
theorem Sound.onLoad (h : r.Sound d occurs) {answer : Except ServerError (Option Server)}
    (hanswer : Server.load d.settings.serverPath r.files = answer) :
    (r.polled r.world (afterLoad answer) (r.log.observe .loadServer answer)).Sound d occurs := by
  rcases answer with e | _ | server
  · exact h.polled rfl (.inl rfl) rfl (List.Subset.refl _) (.failed _)
  · exact h.polled rfl (.inl rfl) rfl (List.Subset.refl _) (.failed _)
  · have hcourse : Course occurs (r.log.observe .loadServer (.ok (some server)))
        (afterLoad (.ok (some server))) := by
      show Course occurs _ (if server.swarmMode = true then _ else _)
      split
      · next hswarm => exact .services rfl hswarm all_pollServices
      · exact .events rfl (h.configured server hanswer)
    exact h.polled rfl (.inl rfl) rfl (List.Subset.refl _) hcourse

/-- The clock is read. -/
theorem Sound.onClock (h : r.Sound d occurs) {server : Server} {last : Option Instant}
    (hloaded : r.log.loaded = some server)
    (hlast : ∀ time, last = some time → time ∈ r.log.noted) :
    (r.polled r.world (askEvents last r.now).run (r.log.observe .clock r.now)).Sound d occurs :=
  h.polled rfl (.inr rfl) rfl (List.Subset.refl _) (.asking hloaded rfl hlast)

/-- The engine is asked: what occurred by now has been sent, or is among what it answers. -/
theorem Sound.onEvents (h : r.Sound d occurs) (hengine : d.Reports occurs) {server : Server}
    {last : Option Instant} {now : Instant} {answer : Except EngineError (List ContainerEvent)}
    (hloaded : r.log.loaded = some server) (hreading : r.log.reading = some now)
    (hlast : ∀ time, last = some time → time ∈ r.log.noted) {state : ε}
    (hanswer : (d.engine r.now (.events (last.getD .epoch) now) state).1 = answer)
    (hload : Server.load d.settings.serverPath world.outside.files =
      Server.load d.settings.serverPath r.files) :
    (r.polled world (afterEvents now answer)
      (r.log.observe (.engine (.events (last.getD .epoch) now)) answer)).Sound d occurs := by
  cases answer with
  | error e => exact h.polled hload (.inl rfl) rfl (List.Subset.refl _) (.failed _)
  | ok events =>
    refine h.polled hload (.inl rfl) rfl (List.Subset.refl _) (.delivering hloaded hreading ?_)
    intro e t he hepoch ht
    have hnow := (h.reading now hreading).1
    by_cases hbefore : (last.getD .epoch).seconds ≤ t.seconds
    · -- the event falls in the seconds that the engine was asked for
      right
      have htime := hengine.time e t he
      refine hengine.answers r.now state _ now events hanswer e t he (Instant.le_trans ht hnow)
        ?_ ?_
      · rw [htime]
        exact hbefore
      · rw [htime]
        exact Instant.seconds_le ht
    · -- the event lies in a second before the last check
      left
      cases last with
      | none => exact absurd (Instant.seconds_le hepoch) hbefore
      | some time =>
        have hlt : t.seconds < time.seconds := Int.not_le.1 hbefore
        exact h.covered time (hlast time rfl) e t he hepoch (Instant.le_of_seconds_lt hlt)

/-- An event is sent, or nobody listens. -/
theorem Sound.onSend (h : r.Sound d occurs) {server : Server} {now : Instant} {count : Nat}
    {e : ContainerEvent} {events : List ContainerEvent} (hloaded : r.log.loaded = some server)
    (hreading : r.log.reading = some now)
    (hcovers : ∀ e' t, occurs e' t → .epoch ≤ t → t ≤ now →
      .container e' ∈ r.log.sent ∨ e' ∈ e :: events) (answer : Bool)
    (hload : Server.load d.settings.serverPath world.outside.files =
      Server.load d.settings.serverPath r.files) :
    (r.polled world
      (if answer = true then (deliver now count events).run else .done (.error .channelClosed))
      (r.log.observe (.send (.container e)) answer)).Sound d occurs := by
  cases answer with
  | false => exact h.polled hload (.inl rfl) rfl (List.Subset.refl _) (.failed _)
  | true =>
    have hcourse : Course occurs (r.log.observe (.send (.container e)) true)
        (deliver now count events).run := by
      refine .delivering hloaded hreading fun e' t he hepoch ht => ?_
      rcases hcovers e' t he hepoch ht with hsent | hmem
      · exact .inl (List.mem_append_left _ hsent)
      · rcases List.mem_cons.1 hmem with rfl | hmem
        · exact .inl (List.mem_append_right _ List.mem_cons_self)
        · exact .inr hmem
    exact h.polled hload (.inl rfl) rfl (List.subset_append_left _ _) hcourse

/-- All is sent, and the time of the check is noted, or cannot be noted. -/
theorem Sound.onCheck (h : r.Sound d occurs) {server : Server} {now : Instant} {count : Nat}
    (hloaded : r.log.loaded = some server) (hreading : r.log.reading = some now)
    (hcovers : ∀ e t, occurs e t → .epoch ≤ t → t ≤ now →
      .container e ∈ r.log.sent ∨ e ∈ ([] : List ContainerEvent))
    {answer : Except ServerError Unit} (hsave : Server.saveCheckTimeWith d.settings.serverPath
      fault now r.files = (answer, world.outside.files)) :
    (r.polled world (afterCheck count answer)
      (r.log.observe (.saveCheckTime now) answer)).Sound d occurs := by
  have hcovered : Covered occurs r.log.sent now := by
    intro e t he hepoch ht
    rcases hcovers e t he hepoch ht with hsent | hmem
    · exact hsent
    · cases hmem
  obtain ⟨_, files', hsame, -, hcases⟩ := Server.saveCheckTimeWith_cases d.settings.dataDir
    isName_server fault (h.reading now hreading).2 r.files
  obtain ⟨rfl, hfiles⟩ := Prod.mk.inj (hsave.symm.trans hsame)
  rcases hcases with ⟨before, rfl, -, hload⟩ | ⟨e, rfl, hload⟩
  · -- the time that is loaded from now on is the one that is noted
    refine ⟨h.clock, h.reading, ?_, ?_, ?_, h.gentle⟩
    · intro server' hserver time htime
      rw [show (r.polled world _ _).files = files' from hfiles] at hserver
      have hserver := hload.symm.trans hserver
      obtain rfl := Option.some.inj (Except.ok.inj hserver)
      obtain rfl : now = time := Option.some.inj htime
      exact List.mem_append_right _ List.mem_cons_self
    · intro time htime
      rcases List.mem_append.1 htime with hbefore | hnow
      · exact h.covered time hbefore
      · rw [List.mem_singleton.1 hnow]
        exact hcovered
    · rintro _ ⟨⟩
      exact .ended hloaded hreading hcovered
  · refine h.polled ?_ (.inl rfl) rfl (List.Subset.refl _) (.failed _)
    rw [hfiles]
    exact hload

/-- A poll of services notes nothing and reads no clock. -/
theorem Sound.onService (h : r.Sound d occurs) {server : Server}
    (hloaded : r.log.loaded = some server) (hswarm : server.swarmMode = true)
    (haction : IsServiceAction action) {next : action.Answer → Routine (Except Error Nat)}
    (hnext : ∀ answer, (next answer).All IsServiceAction) (answer : action.Answer)
    (hload : Server.load d.settings.serverPath world.outside.files =
      Server.load d.settings.serverPath r.files) :
    (r.polled world (next answer) (r.log.observe action answer)).Sound d occurs := by
  obtain ⟨hsame, hreading, hnoted, hsent⟩ := Log.observe_service r.log haction answer
  exact h.polled hload (.inl hreading) hnoted hsent
    (.services (hsame.trans hloaded) hswarm (hnext answer))

end Steps

/-- Each action of a poll keeps a relay sound. -/
theorem Sound.advancePoll [FileTree.Listing] (h : r.Sound d occurs) (hengine : d.Reports occurs)
    (hmove : r.move? d (.advancePoll fault) = some r') : r'.Sound d occurs := by
  cases hpoll : r.poll with
  | none =>
    unfold move? at hmove
    simp only [hpoll] at hmove
    cases hmove
  | some t =>
    -- the poll stands somewhere on its course, and each place has its own action
    cases h.course t hpoll with
    | start =>
      rw [run_poll] at hpoll
      rw [move?_advancePoll hpoll, perform_loadServer] at hmove
      cases hmove
      exact h.onLoad rfl
    | events hloaded hlast =>
      rw [run_pollEvents] at hpoll
      rw [move?_advancePoll hpoll] at hmove
      cases hmove
      exact h.onClock hloaded hlast
    | asking hloaded hreading hlast =>
      rw [run_askEvents] at hpoll
      rw [move?_advancePoll hpoll] at hmove
      cases hmove
      exact h.onEvents hengine hloaded hreading hlast rfl (load_perform trivial)
    | @delivering server now count rest hloaded hreading hcovers =>
      cases rest with
      | nil =>
        rw [run_deliver_nil] at hpoll
        rw [move?_advancePoll hpoll, perform_saveCheckTime] at hmove
        cases hmove
        exact h.onCheck hloaded hreading hcovers rfl
      | cons e rest =>
        rw [run_deliver_cons] at hpoll
        rw [move?_advancePoll hpoll] at hmove
        cases hmove
        exact h.onSend hloaded hreading hcovers _ (load_perform trivial)
    | services hloaded hswarm hrest =>
      cases t with
      | done result =>
        rw [move?_advancePoll_done hpoll] at hmove
        cases hmove
      | step action next =>
        rw [move?_advancePoll hpoll] at hmove
        cases hmove
        exact h.onService hloaded hswarm hrest.1 hrest.2 _
          (load_perform (isGentle_of_isServiceAction hrest.1))
    | failed e =>
      rw [move?_advancePoll_done hpoll] at hmove
      cases hmove
    | ended hloaded hreading hcovered =>
      rw [move?_advancePoll_done hpoll] at hmove
      cases hmove

/-! ## Every move -/

/-- Whatever happens to the tracker keeps a relay sound. -/
theorem Sound.onHandling (h : r.Sound d occurs) {handling : Option Handling}
    {account : List (EngineEvent × Fate)} {replaced : List Int} {world : World (Outside ε)}
    (hload : Server.load d.settings.serverPath world.outside.files =
      Server.load d.settings.serverPath r.files)
    (hgentle : ∀ h, handling = some h → h.rest.All Action.IsGentle) :
    Sound d occurs { r with world, handling, account, replaced } :=
  h.aside rfl rfl rfl hload hgentle

/-- Without a tracker a relay stays sound. -/
theorem Sound.idle (h : r.Sound d occurs) {account : List (EngineEvent × Fate)}
    {world : World (Outside ε)} (hload : Server.load d.settings.serverPath world.outside.files =
      Server.load d.settings.serverPath r.files) :
    Sound d occurs { r with world, handling := none, account } := by
  apply h.onHandling hload
  intro handling hhandling
  cases hhandling

/-- The store is opened without touching the configuration. -/
theorem load_openIn [FileTree.Listing] {files files' : FileTree} {store : Store}
    (h : Store.openIn d.settings.containersDir files = (.ok store, files')) :
    Server.load d.settings.serverPath files' = Server.load d.settings.serverPath files := by
  apply Server.load_congr isName_server
  have hplace : ¬ Files.parts d.settings.dataDir ++ ["server.json"] <+:
      Files.parts d.settings.containersDir := by
    rw [parts_containersDir, List.prefix_append_right_inj]
    decide
  rw [FileTree.below?_eq_lookup isName_server, FileTree.below?_eq_lookup isName_server]
  exact FileTree.lookup_makeDirs?_of_not_prefix (Store.openIn_eq_ok_iff.1 h).1 hplace

/-- Every move keeps a relay sound. -/
theorem Sound.move [FileTree.Listing] (h : r.Sound d occurs) (hengine : d.Reports occurs)
    {m : Move ε} (hadmits : r.Admits d m) (hmove : r.move? d m = some r') : r'.Sound d occurs := by
  cases m with
  | startPoll =>
    cases hmove
    refine h.keep rfl rfl ?_ rfl (List.Subset.refl _) ?_ h.gentle
    · rintro _ ⟨⟩
    · rintro _ ⟨⟩
      exact .start
  | advancePoll fault => exact h.advancePoll hengine hmove
  | receive =>
    obtain ⟨e, queue, -, -, rfl⟩ := of_move?_receive hmove
    refine h.onHandling rfl ?_
    rintro _ ⟨⟩
    exact Tracker.all_handle e
  | advanceHandling fault =>
    obtain ⟨event, target, action, next, hhandling, rfl⟩ := of_move?_advanceHandling hmove
    have hrest := h.gentle _ hhandling
    refine h.onHandling (load_perform hrest.1) ?_
    rintro _ ⟨⟩
    exact hrest.2 _
  | settle =>
    obtain ⟨handling, fate, -, -, rfl⟩ := of_move?_settle hmove
    exact h.idle rfl
  | act action fault =>
    obtain rfl := of_move?_act hmove
    exact h.onHandling (load_act hadmits) h.gentle
  | elapse now outside =>
    cases hmove
    obtain ⟨hnow, hvalid, hconfigured, -⟩ := hadmits
    refine ⟨hvalid, ?_, hconfigured, h.covered, h.course, h.gentle⟩
    intro time htime
    have hreading := h.reading time htime
    exact ⟨Instant.le_trans hreading.1 hnow, hreading.2⟩
  | close =>
    cases hmove
    exact h.idle rfl
  | restart =>
    obtain ⟨store, files, hopen, rfl⟩ := of_move?_restart hmove
    refine h.keep rfl (load_openIn hopen) h.reading rfl (List.Subset.refl _) ?_ ?_
    · intro t ht
      cases ht
    · intro handling hhandling
      cases hhandling

theorem sound_of_reachable [FileTree.Listing] (hengine : d.Reports occurs) {first : Relay ε}
    (hfirst : first.IsFresh d) (h : Reachable d first r) : r.Sound d occurs := by
  induction h with
  | refl => exact hfirst.sound
  | step m _ hadmits hmove ih => exact ih.move hengine hadmits hmove

/-- In every relay that any moves lead to, whatever went wrong in polls before: once a poll that is
not one of services has succeeded, every event that occurred by the instant it read from the clock
has been sent, by this poll or an earlier one. -/
theorem sent_of_poll_ok [FileTree.Listing] (hengine : d.Reports occurs) {first : Relay ε}
    (hfirst : first.IsFresh d) (h : Reachable d first r) {count : Nat}
    (hpoll : r.poll = some (.done (.ok count))) :
    ∃ server, r.log.loaded = some server ∧
      (server.swarmMode = false → ∃ now, r.log.reading = some now ∧
        ∀ e t, occurs e t → .epoch ≤ t → t ≤ now → .container e ∈ r.log.sent) := by
  have hcourse := (sound_of_reachable hengine hfirst h).course _ hpoll
  generalize hrest : (Routine.done (Except.ok count) : Routine (Except Error Nat)) = rest at hcourse
  cases hcourse with
  | services hloaded hswarm _ =>
    refine ⟨_, hloaded, fun hplain => ?_⟩
    rw [hswarm] at hplain
    cases hplain
  | ended hloaded hreading hcovered => exact ⟨_, hloaded, fun _ => ⟨_, hreading, hcovered⟩⟩
  | failed e => cases hrest
  | start =>
    rw [run_poll] at hrest
    cases hrest
  | events hloaded hlast => cases hrest
  | asking hloaded hreading hlast =>
    rw [run_askEvents] at hrest
    cases hrest
  | @delivering server now count events hloaded hreading hcovers =>
    cases events with
    | nil =>
      rw [run_deliver_nil] at hrest
      cases hrest
    | cons e events =>
      rw [run_deliver_cons] at hrest
      cases hrest

end Relay

/-! ## An engine that reports what happened -/

/-- An engine that has things happen, and answers with those that have. -/
def Engine.reporting (happenings : List (ContainerEvent × Instant)) (now : Instant) : Engine Unit
  | .events since til, state =>
    let reported := happenings.filter fun (e, t) =>
      (t.compare now).isLE ∧ since.seconds ≤ e.time ∧ e.time ≤ til.seconds
    (.ok (reported.map Prod.fst), state)
  | _, state => (.error .notConfigured, state)

theorem Deployment.reports_reporting {d : Deployment Unit}
    {happenings : List (ContainerEvent × Instant)} (hengine : d.engine = .reporting happenings)
    (htime : ∀ e t, (e, t) ∈ happenings → e.time = t.seconds) :
    d.Reports fun e t => (e, t) ∈ happenings where
  time := htime
  answers := by
    intro now state since til es hes e t he hnow hsince htil
    rw [hengine] at hes
    obtain rfl := Except.ok.inj hes
    refine List.mem_map.2 ⟨(e, t), List.mem_filter.2 ⟨he, ?_⟩, rfl⟩
    have hvisible : (t.compare now).isLE = true := hnow
    simp [hvisible, hsince, htil]

namespace Relay

/-- A container starts. -/
def started : ContainerEvent :=
  { status := "start", id := "abc", time := 100, timeNano := 100000000005 }

/-- What happens on the engine of the examples. -/
def happenings : List (ContainerEvent × Instant) :=
  [(started, ⟨100, 5⟩)]

/-- A deployment on whose engine one container starts. -/
def quiet : Deployment Unit where
  engine := .reporting happenings

theorem reports_quiet : quiet.Reports fun e t => (e, t) ∈ happenings := by
  apply Deployment.reports_reporting rfl
  intro e t he
  cases List.mem_singleton.1 he
  rfl

/-- A relay with a configuration and no records, in the second after the container started. -/
def atFirst : Relay Unit where
  now := ⟨101, 0⟩
  world :=
    { store := .empty
      outside :=
        { files := ⟨[([".berth"], .directory), ([".berth", "containers"], .directory),
            ([".berth", "server.json"], .file "\x7b\x7d")]⟩
          engine := () } }

theorem load_atFirst : Server.load quiet.settings.serverPath atFirst.files = .ok (some {}) := by
  rfl

theorem isFresh_atFirst : atFirst.IsFresh quiet where
  clock := ⟨by decide, by decide⟩
  poll := rfl
  log := rfl
  handling := rfl
  account := rfl
  replaced := rfl
  configured := by
    intro server hserver time htime
    obtain rfl := Option.some.inj (Except.ok.inj (load_atFirst.symm.trans hserver))
    cases htime

/-- A poll in which nothing goes wrong, or the check cannot be noted. -/
def polling (fault : Store.Fault) : List (Move Unit) :=
  [.startPoll, .advancePoll .none, .advancePoll .none, .advancePoll .none, .advancePoll .none,
    .advancePoll fault]

/-- The number of events that the poll sent, if it succeeded. -/
def count? (r : Relay Unit) : Option Nat :=
  match r.poll with
  | some (.done (.ok count)) => some count
  | _ => none

theorem poll_of_count? {r : Relay Unit} {count : Nat} (h : r.count? = some count) :
    r.poll = some (.done (.ok count)) := by
  unfold count? at h
  split at h
  · next hpoll => rw [hpoll, Option.some.inj h]
  · cases h

/-- The first check is not noted; the next poll sends the event again. -/
theorem run_polling : ((atFirst.run? quiet (polling .move ++ polling .none)).map fun r =>
    (r.count?, r.log.loaded.map (·.swarmMode), r.log.reading)) =
      some (some 1, some false, some ⟨101, 0⟩) := by
  decide +kernel

theorem sent_of_poll_ok_again :
    ∃ r, Reachable quiet atFirst r ∧ r.poll = some (.done (.ok 1)) ∧
      .container started ∈ r.log.sent := by
  obtain ⟨r, hrun, hseen⟩ := Option.map_eq_some_iff.1 run_polling
  obtain ⟨hcount, hseen⟩ := Prod.mk.inj hseen
  obtain ⟨hswarm, hreading⟩ := Prod.mk.inj hseen
  have hreachable : Reachable quiet atFirst r := Reachable.refl.run? rfl hrun
  have hpoll := poll_of_count? hcount
  obtain ⟨server, hloaded, hsent⟩ := sent_of_poll_ok reports_quiet isFresh_atFirst hreachable hpoll
  rw [hloaded] at hswarm
  obtain ⟨now, hnow, hcovers⟩ := hsent (Option.some.inj hswarm)
  obtain rfl := Option.some.inj (hreading.symm.trans hnow)
  refine ⟨r, hreachable, hpoll, hcovers started ⟨100, 5⟩ (List.mem_singleton.2 rfl) ?_ ?_⟩
  · exact Instant.le_of_seconds_lt (by decide)
  · exact Instant.le_of_seconds_lt (by decide)

end Relay

end Mooring
