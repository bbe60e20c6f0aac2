import Mooring.Proofs.Lifecycle.Killing
import Mooring.Proofs.Lifecycle.Launching
import Mooring.Proofs.Lifecycle.Protocol
import Mooring.Proofs.Lifecycle.Repertoire

set_option autoImplicit false

/-!
# A launch and a kill at work

A launch and a kill of the record that it adds take their actions in any order in one world. Seen
from that record, each of them goes through stages, and follows a protocol that lists its actions
(`follows_launch`, `follows_kill`). What comes of the two together is the subject of
`Mooring.Proofs.Lifecycle.Overtaking`.
-/

namespace Mooring

open Routine

/-- Every change of a record is saved, and the engine does what it is asked. -/
structure Surroundings.Succeeds {σ : Type} (s : Surroundings σ) : Prop where
  saves : s.Saves
  engine : ∀ call outside, ∃ answer, (s.engine call outside).1 = .ok answer

/-! ## What runs -/

namespace Deed

/-- What runs after a deed. A service runs once it is created. -/
def apply (up : List String) : Deed → List String
  | ⟨.engine (.startContainer id), .ok _⟩ => id :: up
  | ⟨.engine (.createService _), .ok id⟩ => id :: up
  | ⟨.engine (.killContainer id), .ok _⟩ => up.filter (· != id)
  | ⟨.engine (.removeService id), .ok _⟩ => up.filter (· != id)
  | _ => up

/-- The record that a deed found. -/
def got? : Deed → Option Container
  | ⟨.get _, answer⟩ => answer
  | _ => none

theorem apply_of_isCallFree {action : Action} (h : action.IsCallFree) (answer : action.Answer)
    (up : List String) : apply up ⟨action, answer⟩ = up := by
  cases action <;> first | rfl | exact False.elim h

end Deed

/-- The next action of a routine with its answer, and what is left to do. -/
def Routine.act? {σ α : Type} (s : Surroundings σ) (w : World σ) :
    Routine α → Option (Deed × Routine α × World σ)
  | done _ => none
  | step action next =>
    if w.ready action then
      some (⟨action, (s.perform w action).1⟩, next (s.perform w action).1, (s.perform w action).2)
    else none

theorem Routine.act?_eq_some {σ α : Type} {s : Surroundings σ} {w w' : World σ} {t t' : Routine α}
    {d : Deed} (h : t.act? s w = some (d, t', w')) :
    ∃ action next answer, t = step action next ∧ s.perform w action = (answer, w') ∧
      d = ⟨action, answer⟩ ∧ t' = next answer := by
  cases t with
  | done a => cases h
  | step action next =>
    by_cases hready : w.ready action = true
    · rw [act?, if_pos hready] at h
      cases h
      exact ⟨action, next, _, rfl, rfl, rfl, rfl⟩
    · rw [act?, if_neg hready] at h
      cases h

/-! ## A launch and a kill -/

/-- The parties at work. -/
inductive Party where
  | launch
  | kill
  deriving DecidableEq

/-- A launch and a kill in progress, and what they did, oldest first. -/
structure Overlap (σ : Type) where
  world : World σ
  launch : Routine (Except Error Container)
  kill : Routine (Except Error Status)
  log : List (Party × Deed) := []

namespace Overlap

/-- What can happen next: an action of one of the parties, or something outside. -/
inductive Move (σ : Type) where
  | act (party : Party)
  | elapse (outside : σ)

variable {σ : Type}

/-- A launch and a kill of the record that it will add, before either did anything. -/
def start (l : Launcher) (user : String) (r : Resolved) (killer : String) (w : World σ) :
    Overlap σ :=
  { world := w
    launch := (l.launch user r).run
    kill := (Tracker.kill w.store.nextId killer).run }

/-- What comes of a move, if it can be made. -/
def move? (s : Surroundings σ) (p : Overlap σ) : Move σ → Option (Overlap σ)
  | .act .launch =>
    (p.launch.act? s p.world).map fun (deed, launch, world) =>
      { p with world, launch, log := p.log ++ [(.launch, deed)] }
  | .act .kill =>
    (p.kill.act? s p.world).map fun (deed, kill, world) =>
      { p with world, kill, log := p.log ++ [(.kill, deed)] }
  | .elapse outside => some { p with world := { p.world with outside } }

/-- What comes of some moves, if they can be made. -/
def follow? (s : Surroundings σ) : Overlap σ → List (Move σ) → Option (Overlap σ)
  | p, [] => some p
  | p, m :: rest => (p.move? s m).bind fun q => follow? s q rest

/-- What runs after some deeds. -/
def running (log : List (Party × Deed)) : List String :=
  log.foldl (fun up entry => entry.2.apply up) []

/-- The record as the kill first found it. -/
def seen? (log : List (Party × Deed)) : Option Container :=
  log.findSome? fun entry =>
    match entry with
    | (.kill, deed) => deed.got?
    | (.launch, _) => none

/-- Whether the kill found the record with an identifier of the engine. -/
def SawId (p : Overlap σ) : Prop :=
  ∃ c external, seen? p.log = some c ∧ c.externalId? = some external

/-- Whether a kill that was answered with a terminal status left nothing of the launch running. -/
def KillHolds (p : Overlap σ) : Prop :=
  ∀ status, p.kill = .done (.ok status) → status.isTerminal = true → running p.log = []

@[simp] theorem running_concat (log : List (Party × Deed)) (party : Party) (deed : Deed) :
    running (log ++ [(party, deed)]) = deed.apply (running log) := by
  unfold running
  rw [List.foldl_append]
  rfl

@[simp] theorem seen?_launch (log : List (Party × Deed)) (deed : Deed) :
    seen? (log ++ [(.launch, deed)]) = seen? log := by
  unfold seen?
  rw [List.findSome?_append]
  exact Option.or_none

theorem seen?_kill (log : List (Party × Deed)) (deed : Deed) :
    seen? (log ++ [(.kill, deed)]) = (seen? log).or deed.got? := by
  unfold seen?
  rw [List.findSome?_append]
  cases hgot : deed.got? <;> simp [hgot]

/-! ## How a launch proceeds -/

/-- How far a launch is: the record is not there, is there, what the engine created has an
identifier, this is noted in the record, and it was started. -/
inductive LaunchStage where
  | ready
  | added
  | created (external : String)
  | noted (external : String)
  | started (external : String)

namespace LaunchStage

/-- The identifier that the record has. -/
def noted? : LaunchStage → Option String
  | noted external | started external => some external
  | ready | added | created _ => none

/-- What the launch has brought up. -/
def up (l : Launcher) : LaunchStage → List String
  | ready | added => []
  | created external | noted external => if l.swarm then [external] else []
  | started external => [external]

end LaunchStage

variable {l : Launcher} {id : Int}

/-- What a launch can expect where everything succeeds. -/
def LaunchExpects (id : Int) (stage : LaunchStage) : (action : Action) → action.Answer → Prop
  | .insert _, answer => stage = .ready → answer = .ok id
  | .engine _, answer => ∃ value, answer = .ok value
  | .update other change, answer => other = id → stage ≠ .ready →
      (∀ c, (change c).databaseId = c.databaseId) → ∃ c, answer = .ok c
  | _, _ => True

/-- The actions of a launch. -/
inductive LaunchLeads (l : Launcher) (id : Int) :
    LaunchStage → (action : Action) → action.Answer → LaunchStage → Prop
  | prepare {action : Action} {answer : action.Answer} (h : action.IsPreparing) :
    LaunchLeads l id .ready action answer .ready
  | ping {answer : Except EngineError Unit} : LaunchLeads l id .ready (.engine .ping) answer .ready
  | insert {user : String} {r : Resolved} :
    LaunchLeads l id .ready (.insert (l.firstRecord user r)) (.ok id) .added
  | createContainer {r : Resolved} {external : String} (plain : l.swarm = false) :
    LaunchLeads l id .added (.engine (.createContainer r)) (.ok external) (.created external)
  | createService {r : Resolved} {external : String} (swarm : l.swarm = true) :
    LaunchLeads l id .added (.engine (.createService r)) (.ok external) (.created external)
  | note {external : String} {c : Container} :
    LaunchLeads l id (.created external) (.update id (l.withEngineId external)) (.ok c)
      (.noted external)
  | start {external : String} {u : Unit} (plain : l.swarm = false) :
    LaunchLeads l id (.noted external) (.engine (.startContainer external)) (.ok u)
      (.started external)
  | look {stage : LaunchStage} {answer : Option Container} :
    LaunchLeads l id stage (.get id) answer stage

/-- The protocol of a launch. -/
def launchProtocol (l : Launcher) (id : Int) : Protocol LaunchStage :=
  ⟨LaunchExpects id, LaunchLeads l id⟩

/-- Where a launch can end: before it adds a record, or when everything is done. -/
def LaunchEnds (l : Launcher) (stage : LaunchStage) : Prop :=
  stage = .ready ∨ ∃ external, stage = if l.swarm then .noted external else .started external

theorem follows_need (stage : LaunchStage) :
    (launchProtocol l id).Follows (fun stage' _ => stage' = stage) (Job.need id).run stage := by
  intro answer _
  refine ⟨stage, .look, ?_⟩
  cases answer <;> rfl

theorem follows_proceed (id : Int) (external : String) :
    (launchProtocol l id).Follows (fun stage _ => LaunchEnds l stage)
      (l.proceed id external).run (.created external) := by
  have hupdate : (launchProtocol l id).Follows
      (fun stage r => stage = .noted external ∧ ∃ c, r = .ok c)
      (Job.update id (l.withEngineId external)).run (.created external) := by
    intro answer hexpects
    obtain ⟨c, rfl⟩ := hexpects rfl nofun (l.databaseId_withEngineId external)
    exact ⟨_, .note, rfl, c, rfl⟩
  refine Protocol.Follows.bindJob hupdate ?_ ?_
  · rintro _ c ⟨rfl, -⟩
    cases hswarm : l.swarm with
    | true =>
      rw [Launcher.start_of_swarm hswarm]
      refine (follows_need _).mono ?_
      rintro _ r rfl
      exact .inr ⟨external, by rw [if_pos hswarm]⟩
    | false =>
      rw [Launcher.start_of_plain hswarm]
      intro answer hexpects
      obtain ⟨u, rfl⟩ := hexpects
      refine ⟨.started external, .start hswarm, (follows_need _).mono ?_⟩
      rintro _ r rfl
      exact .inr ⟨external, by simp [hswarm]⟩
  · rintro _ e ⟨-, c, hc⟩
    cases hc

theorem follows_complete (r : Resolved) (id : Int) :
    (launchProtocol l id).Follows (fun stage _ => LaunchEnds l stage) (l.complete r id).run
      .added := by
  have hcreate : (launchProtocol l id).Follows
      (fun stage r => ∃ external, stage = .created external ∧ r = .ok external)
      (Launcher.orGiveUp id "Failed to create" (l.create r) : Job String).run .added := by
    unfold Launcher.create
    cases hswarm : l.swarm with
    | true =>
      intro answer hexpects
      obtain ⟨external, rfl⟩ := hexpects
      exact ⟨_, .createService hswarm, external, rfl, rfl⟩
    | false =>
      intro answer hexpects
      obtain ⟨external, rfl⟩ := hexpects
      exact ⟨_, .createContainer hswarm, external, rfl, rfl⟩
  refine Protocol.Follows.bindJob hcreate ?_ ?_
  · rintro _ _ ⟨external, rfl, hr⟩
    cases hr
    exact follows_proceed id _
  · rintro _ e ⟨external, -, hr⟩
    cases hr

/-- Where everything succeeds, a launch comes to its end or adds no record. -/
theorem follows_launch (l : Launcher) (id : Int) (user : String) (r : Resolved) :
    (launchProtocol l id).Follows (fun stage _ => LaunchEnds l stage) (l.launch user r).run
      .ready := by
  rw [Launcher.launch_eq]
  refine Protocol.Follows.bindJob (Protocol.follows_of_all (Launcher.preparing_prepare l user r)
    fun action h answer => .prepare h) ?_ ?_
  · rintro _ r rfl answer hexpects
    obtain ⟨u, rfl⟩ := hexpects
    refine ⟨_, .ping, fun answer hexpects => ?_⟩
    obtain rfl := hexpects rfl
    exact ⟨_, .insert, follows_complete r id⟩
  · rintro _ e rfl
    exact .inl rfl

/-! ## How a kill proceeds -/

/-- How far a kill is: it has not looked, it found nothing, or it found a record without an
identifier of the engine, that of a container, or that of a service, which is then removed. -/
inductive KillStage where
  | waiting
  | missed
  | unseen
  | plain
  | service (external : String)
  | removed (external : String)

namespace KillStage

/-- Whether the record is still as it was created. -/
def isOpen : KillStage → Bool
  | waiting | plain => true
  | missed | unseen | service _ | removed _ => false

/-- Whether the service is removed. -/
def isRemoved : KillStage → Bool
  | removed _ => true
  | _ => false

end KillStage

/-- Whether the tracker takes an action when it finalizes or records. -/
def IsFinalizing (action : Action) : Prop :=
  action.IsTracking fun _ _ => False

/-- What a kill can expect: the record is one of the launch, as long as it is open. -/
def KillExpects (l : Launcher) (id : Int) (stage : KillStage) :
    (action : Action) → action.Answer → Prop
  | .get other, answer => stage.isOpen = true → other = id → ∀ c, answer = some c →
      c.status = .created ∧ c.swarm = l.swarm
  | _, _ => True

/-- The actions of a kill. -/
inductive KillLeads (l : Launcher) (id : Int) (user : String) :
    KillStage → (action : Action) → action.Answer → KillStage → Prop
  | miss : KillLeads l id user .waiting (.get id) none .missed
  | overlook {c : Container} (nowhere : c.externalId? = none) :
    KillLeads l id user .waiting (.get id) (some c) .unseen
  | finalize {action : Action} {answer : action.Answer} (h : IsFinalizing action) :
    KillLeads l id user .unseen action answer .unseen
  | findPlain {c : Container} {external : String} (plain : l.swarm = false)
      (there : c.externalId? = some external) :
    KillLeads l id user .waiting (.get id) (some c) .plain
  | kill {external : String} {answer : Except EngineError Unit} :
    KillLeads l id user .plain (.engine (.killContainer external)) answer .plain
  | request {answer : Except StoreError (Option StatusChange)} :
    KillLeads l id user .plain (.append id (Tracker.request user)) answer .plain
  | publish {event : Instant → LifecycleEvent} {u : Unit} :
    KillLeads l id user .plain (.publish event) u .plain
  | look {answer : Option Container} : KillLeads l id user .plain (.get id) answer .plain
  | findService {c : Container} {external : String} (swarm : l.swarm = true)
      (there : c.externalId? = some external) :
    KillLeads l id user .waiting (.get id) (some c) (.service external)
  | ping {external : String} {answer : Except EngineError Unit} :
    KillLeads l id user (.service external) (.engine .ping) answer (.service external)
  | finalizeService {external : String} {action : Action} {answer : action.Answer}
      (h : IsFinalizing action) :
    KillLeads l id user (.service external) action answer (.service external)
  | remove {external : String} {u : Unit} :
    KillLeads l id user (.service external) (.engine (.removeService external)) (.ok u)
      (.removed external)
  | keep {external : String} {e : EngineError} :
    KillLeads l id user (.service external) (.engine (.removeService external)) (.error e)
      (.service external)

/-- The protocol of a kill. -/
def killProtocol (l : Launcher) (id : Int) (user : String) : Protocol KillStage :=
  ⟨KillExpects l id, KillLeads l id user⟩

/-- How a kill can end in a stage. -/
def KillEnds : KillStage → Except Error Status → Prop
  | .waiting, _ => False
  | .missed, r | .service _, r => ∃ e, r = .error e
  | .plain, r => ∀ status, r = .ok status → status = .created
  | .unseen, _ | .removed _, _ => True

variable {user : String} {c : Container}

theorem isFinalizing_requestAndFinalize (id : Int) (user : String) :
    (Tracker.requestAndFinalize id user).run.All IsFinalizing :=
  All.bindJob (Tracker.tracking_record id fun _ => ⟨rfl, rfl⟩) fun _ =>
    Tracker.tracking_finalize id

/-- A record that the engine does not know is finalized on the spot. -/
theorem follows_killRunning_unseen (h : c.externalId? = none) :
    (killProtocol l id user).Follows KillEnds (Tracker.killRunning id user c).run .unseen := by
  rw [Tracker.killRunning_of_none h]
  have hall : ((do return (← Tracker.requestAndFinalize id user).getD .killed) :
      Job Status).run.All IsFinalizing :=
    All.bindJob (isFinalizing_requestAndFinalize id user) fun _ => trivial
  have hfollows := Protocol.follows_of_all (P := killProtocol l id user) hall
    fun action h answer => KillLeads.finalize h
  refine hfollows.mono ?_
  rintro _ r rfl
  trivial

/-- A container is killed by the engine, and its record stays open. -/
theorem follows_killRunning_plain {external : String} (hswarm : c.swarm = false)
    (hstatus : c.status = .created) (h : c.externalId? = some external) :
    (killProtocol l id user).Follows KillEnds (Tracker.killRunning id user c).run .plain := by
  rw [Tracker.killRunning_of_plain hswarm h]
  intro answer _
  refine ⟨.plain, .kill, ?_⟩
  cases answer with
  | error e => nofun
  | ok u =>
    have hrecord : (killProtocol l id user).Follows (fun stage _ => stage = .plain)
        (Tracker.record id (Tracker.request user)).run .plain :=
      Protocol.follows_of_all
        (Tracker.all_record (P := fun action => ∀ answer, KillLeads l id user .plain action answer
          .plain) (fun _ => .request) fun _ _ => .publish)
        fun _ h => h
    refine Protocol.Follows.bindJob hrecord ?_ ?_
    · rintro _ change rfl answer hexpects
      refine ⟨.plain, .look, ?_⟩
      cases answer with
      | none =>
        rintro _ ⟨⟩
        exact hstatus
      | some d =>
        rintro _ ⟨⟩
        exact (hexpects rfl rfl d rfl).1
    · rintro _ e rfl
      nofun

/-- A service is finalized on the spot, and removed after that. -/
theorem follows_killRunning_service {external : String} (hswarm : c.swarm = true)
    (h : c.externalId? = some external) :
    (killProtocol l id user).Follows KillEnds (Tracker.killRunning id user c).run
      (.service external) := by
  rw [Tracker.killRunning_of_service hswarm h]
  intro answer _
  refine ⟨_, .ping, ?_⟩
  cases answer with
  | error e => exact ⟨_, rfl⟩
  | ok u =>
    refine Protocol.Follows.bindJob (Protocol.follows_of_all
      (isFinalizing_requestAndFinalize id user) fun action h answer => .finalizeService h) ?_ ?_
    · rintro _ status rfl answer _
      cases answer with
      | error e => exact ⟨_, .keep, Error.engine e, rfl⟩
      | ok u => exact ⟨_, .remove, trivial⟩
    · rintro _ e rfl
      exact ⟨e, rfl⟩

/-- A kill looks at the record once, and what it found decides on what it does. -/
theorem follows_kill (l : Launcher) (id : Int) (user : String) :
    (killProtocol l id user).Follows KillEnds (Tracker.kill id user).run .waiting := by
  intro answer hexpects
  cases answer with
  | none => exact ⟨_, .miss, _, rfl⟩
  | some c =>
    obtain ⟨hstatus, hswarm⟩ := hexpects rfl rfl c rfl
    have hopen : ¬ c.hasStopped := by
      rw [Container.hasStopped, Container.isFinalized, hstatus]
      simp [Status.isTerminal]
    have hrest : ∀ stage, (killProtocol l id user).Follows KillEnds
        (Tracker.killRunning id user c).run stage →
        (killProtocol l id user).Follows KillEnds
          (if c.hasStopped then pure c.status else Tracker.killRunning id user c : Job Status).run
          stage := by
      intro stage h
      rw [if_neg hopen]
      exact h
    cases hexternal : c.externalId? with
    | none => exact ⟨_, .overlook hexternal, hrest _ (follows_killRunning_unseen hexternal)⟩
    | some external =>
      cases hlswarm : l.swarm with
      | false =>
        exact ⟨_, .findPlain hlswarm hexternal,
          hrest _ (follows_killRunning_plain (hswarm.trans hlswarm) hstatus hexternal)⟩
      | true =>
        exact ⟨_, .findService hlswarm hexternal,
          hrest _ (follows_killRunning_service (hswarm.trans hlswarm) hexternal)⟩

end Overlap

end Mooring
