import Mooring.Lifecycle.Installation
import Mooring.Lifecycle.Poller
import Mooring.Lifecycle.Tracker
import Mooring.Proofs.Server.File
import Mooring.Proofs.Store.Growth
import Mooring.Proofs.Store.Mirror
import Mooring.Settings.Basic

set_option autoImplicit false

/-!
# The way of an event

What happens on the engine is asked for by polls, sent through a channel, and recorded by the
tracker. A `Relay` is the world with the poll and the handling that are in progress in it. Its moves
let either of them do its next action, with what goes wrong in it, let somebody else act on the
store or the channel, let time pass, or stop the tracker or the whole process, so that `Reachable`
relays are those of every interleaving.

A relay also keeps account of what is past: the events that were sent, the times of checks that were
noted, what became of the events that left the channel, and the records that gave way to others once
the identifiers had come round.
-/

namespace Mooring

/-! ## Time -/

namespace Instant

/-- The order of time. -/
instance : LE Instant :=
  ⟨fun a b => (a.compare b).isLE = true⟩

theorem le_iff {a b : Instant} :
    a ≤ b ↔ a.seconds < b.seconds ∨ a.seconds = b.seconds ∧ a.nanos ≤ b.nanos := by
  show (a.compare b).isLE = true ↔ _
  unfold compare
  rw [Ordering.isLE_then_iff_or, Int.compare_eq_lt, Int.compare_eq_eq, Nat.isLE_compare]

theorem seconds_le {a b : Instant} (h : a ≤ b) : a.seconds ≤ b.seconds := by
  rw [le_iff] at h
  omega

theorem le_of_seconds_lt {a b : Instant} (h : a.seconds < b.seconds) : a ≤ b :=
  le_iff.2 (.inl h)

theorem le_rfl {a : Instant} : a ≤ a :=
  le_iff.2 (.inr ⟨rfl, Nat.le_refl _⟩)

theorem le_trans {a b c : Instant} (h : a ≤ b) (h' : b ≤ c) : a ≤ c := by
  rw [le_iff] at h h' ⊢
  omega

end Instant

/-! ## Routines that keep to some actions -/

namespace Routine

variable {α β : Type} {P : Action → Prop}

/-- Whether all actions of a routine are of a kind, whatever they are answered. -/
def All (P : Action → Prop) : Routine α → Prop
  | done _ => True
  | step action next => P action ∧ ∀ answer, (next answer).All P

theorem All.bind {t : Routine α} {f : α → Routine β} (h : t.All P) (hf : ∀ a, (f a).All P) :
    (t.bind f).All P := by
  induction t with
  | done a => exact hf a
  | step action next ih => exact ⟨h.1, fun answer => ih answer (h.2 answer)⟩

theorem All.bindJob {j : Job α} {f : α → Job β} (h : j.run.All P) (hf : ∀ a, (f a).run.All P) :
    (j >>= f).run.All P := by
  refine All.bind h fun r => ?_
  cases r with
  | ok a => exact hf a
  | error e => trivial

theorem All.mono {Q : Action → Prop} {t : Routine α} (h : t.All P)
    (hpq : ∀ action, P action → Q action) : t.All Q := by
  induction t with
  | done a => trivial
  | step action next ih => exact ⟨hpq action h.1, fun answer => ih answer (h.2 answer)⟩

theorem All.ask {action : Action} (h : P action) : (Job.ask action).run.All P :=
  ⟨h, fun _ => trivial⟩

end Routine

/-! ## Deployments -/

/-- A deployment of this system: its settings, and what its engine does at an instant. -/
structure Deployment (ε : Type) where
  settings : Settings := {}
  engine : Instant → Engine ε
  tokens : Nat → Except (List String) String := fun _ => .error []
  directoryNames : Nat → String := toString

namespace Deployment

variable {ε : Type} (d : Deployment ε)

/-- The installation at an instant. -/
def installation (now : Instant) : Installation ε where
  now := now
  engine := d.engine now
  storeDir := some d.settings.containersDir
  logDir := d.settings.logDir
  serverPath := d.settings.serverPath
  buildPath := d.settings.buildPath
  tokens := d.tokens
  directoryNames := d.directoryNames

/-- The surroundings of the routines at an instant, while something goes wrong with what is saved. -/
def surroundings (now : Instant) (fault : Store.Fault) : Surroundings (Outside ε) :=
  { (d.installation now).surroundings with
    shelf :=
      ⟨fun c => Installation.withFiles (Store.saveWith d.settings.containersDir fault c)⟩
    saveCheckTime := fun time =>
      Installation.withFiles (Server.saveCheckTimeWith d.settings.serverPath fault time) }

/-- Where nothing goes wrong, the surroundings are those of the installation. -/
theorem surroundings_none (now : Instant) :
    d.surroundings now .none = (d.installation now).surroundings := by
  have hsave : Store.saveWith d.settings.containersDir .none =
      Store.saveIn d.settings.containersDir := by
    funext c files
    exact Store.saveWith_none
  have hcheck : Server.saveCheckTimeWith d.settings.serverPath .none =
      Server.saveCheckTime d.settings.serverPath := by
    funext time files
    exact Server.saveCheckTimeWith_none ..
  unfold surroundings Installation.surroundings Store.directoryShelf
  rw [hsave, hcheck]
  rfl

end Deployment

/-! ## Relays -/

/-- What a poller learned from the poll in progress, and what it has done in all its polls, oldest
first. -/
structure Poller.Log where
  /-- the server that the poll in progress started from -/
  loaded : Option Server := none
  /-- what the clock told the poll in progress -/
  reading : Option Instant := none
  sent : List EngineEvent := []
  noted : List Instant := []

namespace Poller.Log

/-- The log when another poll starts. -/
def renewed (l : Log) : Log :=
  { l with loaded := none, reading := none }

/-- The log after an action was answered. -/
def observe (l : Log) : (action : Action) → action.Answer → Log
  | .loadServer, .ok loaded => { l with loaded }
  | .clock, time => { l with reading := some time }
  | .send e, true => { l with sent := l.sent ++ [e] }
  | .saveCheckTime time, .ok () => { l with noted := l.noted ++ [time] }
  | _, _ => l

end Poller.Log

/-- An event that the tracker handles, the record that it leads to, as far as that is known, and
what is left to do. -/
structure Handling where
  event : EngineEvent
  target : Option Int
  rest : Routine (Except Error (Option Int))

/-- What became of an event that left the channel. -/
inductive Fate where
  /-- it was handled for a record -/
  | handled (id : Int)
  /-- no record had its identifier when it was handled -/
  | unknown
  /-- its handling failed -/
  | failed (e : Error)
  /-- the tracker stopped before it was handled -/
  | cut

namespace Handling

/-- An event is about to be handled. -/
def start (e : EngineEvent) : Handling where
  event := e
  target :=
    match e with
    | .container _ => none
    | .task id _ | .missing id => some id
  rest := (Tracker.handle e).run

/-- The record that an event leads to after an action was answered. -/
def found (target : Option Int) : (action : Action) → action.Answer → Option Int
  | .find _, answer => answer
  | _, _ => target

/-- What became of the event, if nothing is left to do. -/
def fate? (h : Handling) : Option Fate :=
  match h.rest, h.target with
  | .step _ _, _ => none
  | .done (.error e), _ => some (.failed e)
  | .done (.ok _), some id => some (.handled id)
  | .done (.ok _), none => some .unknown

end Handling

/-- The world with the poll and the handling in progress, and an account of what became of the
events that left the channel, oldest first. -/
structure Relay (ε : Type) where
  now : Instant
  world : World (Outside ε)
  poll : Option (Routine (Except Error Nat)) := none
  log : Poller.Log := {}
  handling : Option Handling := none
  account : List (EngineEvent × Fate) := []
  /-- the identifiers that were given to another record than the one that had them -/
  replaced : List Int := []

/-- The identifier of a record that gave way to the one that was inserted. -/
def Store.replaced? (s : Store) : (action : Action) → action.Answer → Option Int
  | .insert _, .ok id => if (s.get? id).isSome then some id else none
  | _, _ => none

namespace Relay

/-- What can happen next. -/
inductive Move (ε : Type) where
  /-- a poll starts; one that is in progress is given up -/
  | startPoll
  /-- the poll in progress does its next action -/
  | advancePoll (fault : Store.Fault)
  /-- the tracker takes the next event from the channel -/
  | receive
  /-- the handling in progress does its next action -/
  | advanceHandling (fault : Store.Fault)
  /-- the tracker is done with an event -/
  | settle
  /-- somebody else acts -/
  | act (action : Action) (fault : Store.Fault)
  /-- time passes, and something happens outside -/
  | elapse (now : Instant) (outside : Outside ε)
  /-- the tracker stops, and its end of the channel is closed -/
  | close
  /-- the process stops, and another opens the store -/
  | restart

variable {ε : Type}

/-- The files as they are. -/
def files (r : Relay ε) : FileTree :=
  r.world.outside.files

/-- The events that the tracker has in its hands and those that wait for it. -/
def underway (r : Relay ε) : List EngineEvent :=
  (r.handling.map Handling.event).toList ++ r.world.queue

/-- The tracker is gone, and with it the events that it had in its hands or that waited for it. -/
def cutOff (r : Relay ε) : Relay ε :=
  { r with
    handling := none
    account := r.account ++ r.underway.map fun e => (e, .cut) }

/-- The answer to an action, and the world after it. -/
def perform (d : Deployment ε) (fault : Store.Fault) (r : Relay ε) (action : Action) :
    action.Answer × World (Outside ε) :=
  (d.surroundings r.now fault).perform r.world action

/-- The relay after a move, if the move can be made. -/
def move? [FileTree.Listing] (d : Deployment ε) (r : Relay ε) : Move ε → Option (Relay ε)
  | .startPoll => some { r with poll := some Poller.poll.run, log := r.log.renewed }
  | .advancePoll fault =>
    match r.poll with
    | some (.step action next) =>
      let (answer, world) := r.perform d fault action
      some { r with world, poll := some (next answer), log := r.log.observe action answer }
    | _ => none
  | .receive =>
    match r.handling, r.world.queue with
    | none, e :: queue =>
      some { r with world := { r.world with queue }, handling := some (.start e) }
    | _, _ => none
  | .advanceHandling fault =>
    match r.handling with
    | some ⟨event, target, .step action next⟩ =>
      let (answer, world) := r.perform d fault action
      let target := Handling.found target action answer
      some { r with world, handling := some ⟨event, target, next answer⟩ }
    | _ => none
  | .settle =>
    r.handling.bind fun h => h.fate?.map fun fate =>
      { r with handling := none, account := r.account ++ [(h.event, fate)] }
  | .act action fault =>
    if r.world.ready action then
      let (answer, world) := r.perform d fault action
      let given := r.world.store.replaced? action answer
      some { r with world, replaced := r.replaced ++ given.toList }
    else none
  | .elapse now outside => some { r with now, world := { r.world with outside } }
  | .close => some { r.cutOff with world := { r.world with listening := false, queue := [] } }
  | .restart =>
    match (d.installation r.now).start r.world.outside with
    | (.ok world, _) => some { r.cutOff with world, poll := none }
    | _ => none

end Relay

/-! ## What may happen -/

/-- Whether an action adds no record and leaves the configuration, the identifiers and the histories
of records alone. The files that the finalizer writes and the directories that are made for mounts
are none of those, and count as something that happens outside. -/
def Action.IsGentle : Action → Prop
  | .update _ change => Store.IsGentle change
  | .insert _ | .saveCheckTime _ | .finalizer _ | .makeBuildDirectory => False
  | _ => True

namespace Tracker

open Routine

/-- Recording takes the appending of the entry, and the news of a change of status. -/
theorem all_record {P : Action → Prop} {id : Int} {entry : Instant → HistoryEntry}
    (happend : P (.append id entry)) (hpublish : ∀ event, P (.publish event)) :
    (record id entry).run.All P := by
  refine All.bindJob ⟨happend, fun _ => trivial⟩ fun change => ?_
  cases change with
  | none => trivial
  | some c =>
    show (if c.moved then _ else _ : Job _).run.All _
    split
    · exact .ask (hpublish _)
    · trivial

/-- The actions that may be taken to handle an event. -/
inductive Handles : EngineEvent → Action → Prop where
  | find (e : ContainerEvent) : Handles (.container e) (.find e.id)
  | get (id : Int) : Handles (.missing id) (.get id)
  | noteEvent (id : Int) (e : ContainerEvent) :
    Handles (.container e) (.append id (HistoryEntry.ofEvent · e))
  | noteTask (id : Int) (t : ServiceTask) :
    Handles (.task id t) (.append id (HistoryEntry.ofTask · t))
  | noteMissing (id : Int) :
    Handles (.missing id) (.append id (systemEntry .failed missingMessage))
  | place (id : Int) (t : ServiceTask) : Handles (.task id t) (.update id (withTask t))
  | publish (e : EngineEvent) (event : Instant → LifecycleEvent) : Handles e (.publish event)

theorem handles_handleContainer (e : ContainerEvent) :
    (handleContainer e).run.All (Handles (.container e)) := by
  refine All.bindJob (.ask (.find e)) fun found => ?_
  cases found with
  | none => trivial
  | some id => exact All.bindJob (all_record (.noteEvent id e) (.publish _)) fun _ => trivial

theorem handles_handleTask (id : Int) (t : ServiceTask) :
    (handleTask id t).run.All (Handles (.task id t)) := by
  refine All.bindJob (all_record (.noteTask id t) (.publish _)) fun change => ?_
  cases change with
  | none => trivial
  | some c =>
    refine All.bindJob ⟨.place id t, fun _ => trivial⟩ fun _ => ?_
    exact All.bindJob (.ask (.publish _ _)) fun _ => trivial

theorem handles_handleMissing (id : Int) :
    (handleMissing id).run.All (Handles (.missing id)) := by
  have hrecord : (do let _ ← record id (systemEntry .failed missingMessage)
                     return none : Job (Option Int)).run.All (Handles (.missing id)) :=
    All.bindJob (all_record (.noteMissing id) (.publish _)) fun _ => trivial
  refine All.bindJob (.ask (.get id)) fun found => ?_
  cases found with
  | none => exact hrecord
  | some c =>
    -- a service that was killed is bound to be gone, and nothing is recorded of it
    show (if c.wasKilled then _ else _ : Job _).run.All _
    split
    · trivial
    · exact hrecord

/-- Handling an event takes no actions but those of the event. -/
theorem handles_handle (e : EngineEvent) : (handle e).run.All (Handles e) := by
  cases e with
  | container e => exact handles_handleContainer e
  | task id t => exact handles_handleTask id t
  | missing id => exact handles_handleMissing id

theorem Handles.isGentle {e : EngineEvent} {action : Action} (h : Handles e action) :
    action.IsGentle := by
  cases h with
  | place id t => exact fun _ => ⟨rfl, rfl⟩
  | _ => trivial

/-- The tracker leaves the configuration, and the identifiers and histories of records, alone but
for the entries that it appends. -/
theorem all_handle (e : EngineEvent) : (handle e).run.All Action.IsGentle :=
  (handles_handle e).mono fun _ h => h.isGentle

end Tracker

/-- Whether the time of the last check in the configuration, if there is one, is one of those. -/
def Deployment.Configured {ε : Type} (d : Deployment ε) (noted : List Instant) (files : FileTree) :
    Prop :=
  ∀ server, Server.load d.settings.serverPath files = .ok (some server) →
    ∀ time, server.lastEventCheck = some time → time ∈ noted

/-- Whether the directory of the records is as it was. -/
def Deployment.SparesRecords {ε : Type} (d : Deployment ε) (files files' : FileTree) : Prop :=
  (files.Stands d.settings.containersDir → files'.Stands d.settings.containersDir) ∧
    ∀ name, files'.nodes.lookup (Files.parts d.settings.containersDir ++ [name]) =
      files.nodes.lookup (Files.parts d.settings.containersDir ++ [name])

namespace Relay

variable {ε : Type}

/-- Whether a move is one that is reckoned with. Others insert records, but do not change histories,
and in the configuration they leave no time of a check but one that was noted; the clock does not go
back; and when the store is opened again, its records read back from their files. -/
def Admits (d : Deployment ε) (r : Relay ε) : Move ε → Prop
  | .act (.insert _) _ => True
  | .act action _ => action.IsGentle
  | .elapse now outside =>
    r.now ≤ now ∧ now.IsValid ∧ d.Configured r.log.noted outside.files ∧
      d.SparesRecords r.files outside.files
  | .restart => ∀ c ∈ r.world.store.records, c.ReadsBack
  | _ => True

/-- The relays that any moves lead to. -/
inductive Reachable [FileTree.Listing] (d : Deployment ε) (first : Relay ε) : Relay ε → Prop
  | refl : Reachable d first first
  | step {r r' : Relay ε} (m : Move ε) : Reachable d first r → r.Admits d m →
      r.move? d m = some r' → Reachable d first r'

/-- Whether a move is reckoned with in every relay. -/
def Move.IsPlain : Move ε → Bool
  | .act (.insert _) _ => true
  | .act _ _ | .elapse _ _ | .restart => false
  | _ => true

/-- The relay after some moves, if all of them can be made. -/
def run? [FileTree.Listing] (d : Deployment ε) (r : Relay ε) : List (Move ε) → Option (Relay ε)
  | [] => some r
  | m :: rest => (r.move? d m).bind fun r => r.run? d rest

theorem Reachable.run? [FileTree.Listing] {d : Deployment ε} {first r r' : Relay ε}
    (h : Reachable d first r) {moves : List (Move ε)} (hplain : moves.all Move.IsPlain = true)
    (hrun : r.run? d moves = some r') : Reachable d first r' := by
  induction moves generalizing r with
  | nil =>
    cases hrun
    exact h
  | cons m rest ih =>
    obtain ⟨hm, hrest⟩ := Bool.and_eq_true_iff.1 hplain
    obtain ⟨between, hmove, hrun⟩ := Option.bind_eq_some_iff.1 hrun
    have hadmits : r.Admits d m := by
      cases m with
      | act action fault =>
        cases action with
        | insert record => trivial
        | _ => cases hm
      | elapse | restart => cases hm
      | _ => trivial
    exact ih (h.step m hadmits hmove) hrest hrun

/-- A relay in which nothing was done yet. -/
structure IsFresh (d : Deployment ε) (r : Relay ε) : Prop where
  clock : r.now.IsValid
  poll : r.poll = none
  log : r.log = {}
  handling : r.handling = none
  account : r.account = []
  replaced : r.replaced = []
  configured : d.Configured [] r.files

variable {d : Deployment ε} {fault : Store.Fault} {r r' : Relay ε} {action : Action}

/-! ## What moves do -/

section Moves

variable [FileTree.Listing]

theorem of_move?_receive (h : r.move? d .receive = some r') :
    ∃ e queue, r.handling = none ∧ r.world.queue = e :: queue ∧
      r' = { r with world := { r.world with queue }, handling := some (.start e) } := by
  simp only [move?] at h
  split at h
  · next e queue hhandling hqueue =>
    cases h
    exact ⟨e, queue, hhandling, hqueue, rfl⟩
  · cases h

theorem of_move?_advanceHandling (h : r.move? d (.advanceHandling fault) = some r') :
    ∃ event target action next, r.handling = some ⟨event, target, .step action next⟩ ∧
      r' = { r with
        world := (r.perform d fault action).2
        handling := some ⟨event, Handling.found target action (r.perform d fault action).1,
          next (r.perform d fault action).1⟩ } := by
  simp only [move?] at h
  split at h
  · next event target action next hhandling =>
    cases h
    exact ⟨event, target, action, next, hhandling, rfl⟩
  · cases h

theorem of_move?_settle (h : r.move? d .settle = some r') :
    ∃ handling fate, r.handling = some handling ∧ handling.fate? = some fate ∧
      r' = { r with handling := none, account := r.account ++ [(handling.event, fate)] } := by
  simp only [move?] at h
  obtain ⟨handling, hhandling, hsettled⟩ := Option.bind_eq_some_iff.1 h
  obtain ⟨fate, hfate, rfl⟩ := Option.map_eq_some_iff.1 hsettled
  exact ⟨handling, fate, hhandling, hfate, rfl⟩

theorem of_move?_act (h : r.move? d (.act action fault) = some r') :
    r' = { r with
      world := (r.perform d fault action).2
      replaced := r.replaced ++
        (r.world.store.replaced? action (r.perform d fault action).1).toList } := by
  simp only [move?] at h
  split at h
  · cases h
    rfl
  · cases h

/-- The store that a restart opens, and the files that it leaves. -/
theorem of_move?_restart (h : r.move? d .restart = some r') :
    ∃ store files, Store.openIn d.settings.containersDir r.files = (.ok store, files) ∧
      r' = { r.cutOff with
        world := { store, outside := { r.world.outside with files } }
        poll := none } := by
  simp only [move?, Installation.start, Deployment.installation] at h
  split at h
  · next hstart =>
    split at hstart
    · cases hstart
    · next store files hopen =>
      cases hstart
      cases h
      exact ⟨store, files, hopen, rfl⟩
  · cases h

end Moves

/-! ## What gentle actions leave alone -/

theorem perform_insert (record : Instant → Container) :
    r.perform d fault (.insert record) = r.world.afterStore
      (r.world.store.insert (d.surroundings r.now fault).shelf (record r.now) r.world.outside) :=
  rfl

theorem perform_append (id : Int) (entry : Instant → HistoryEntry) :
    r.perform d fault (.append id entry) = r.world.afterStore
      (r.world.store.append (d.surroundings r.now fault).shelf id (entry r.now) r.world.outside) :=
  rfl

theorem perform_loadServer :
    r.perform d fault .loadServer = (Server.load d.settings.serverPath r.files, r.world) := by
  simp only [perform, Surroundings.perform, Deployment.surroundings, Installation.surroundings,
    Deployment.installation, files]

theorem perform_saveCheckTime (time : Instant) :
    r.perform d fault (.saveCheckTime time) =
      ((Server.saveCheckTimeWith d.settings.serverPath fault time r.files).1,
        { r.world with outside := { r.world.outside with
            files := (Server.saveCheckTimeWith d.settings.serverPath fault time r.files).2 } }) := by
  simp only [perform, Surroundings.perform, Deployment.surroundings, World.afterOutside,
    Installation.withFiles, files]

theorem snd_perform_update (id : Int) (change : Container → Container) :
    (r.perform d fault (.update id change)).2 = (r.world.afterStore
      (r.world.store.update (d.surroundings r.now fault).shelf id change r.world.outside)).2 :=
  Surroundings.snd_perform_update _ r.world id change

/-- An insertion saves a record. -/
theorem files_insert (d : Deployment ε) (fault : Store.Fault) (r : Relay ε)
    (record : Instant → Container) :
    ∃ c, (r.perform d fault (.insert record)).2.outside.files =
      (Store.saveWith d.settings.containersDir fault c r.files).2 := by
  rw [perform_insert]
  rcases Store.insert_cases (d.surroundings r.now fault).shelf r.world.store r.world.outside
    (record r.now) with ⟨-, hr⟩ | ⟨err, -, hr⟩
  · rw [hr]
    exact ⟨_, rfl⟩
  · rw [hr]
    exact ⟨_, rfl⟩

/-- A gentle action saves a record, or changes no file. -/
theorem files_perform (d : Deployment ε) (fault : Store.Fault) (r : Relay ε)
    (h : action.IsGentle) :
    (r.perform d fault action).2.outside.files = r.files ∨
    ∃ c, (r.perform d fault action).2.outside.files =
      (Store.saveWith d.settings.containersDir fault c r.files).2 := by
  cases action with
  | append id entry =>
    rw [perform_append]
    rcases Store.append_cases (d.surroundings r.now fault).shelf id r.world.store r.world.outside
      (entry r.now) with
      ⟨-, hr⟩ | ⟨c, -, -, hr⟩ | ⟨c, c', -, -, -, hr⟩ | ⟨c, c', err, -, -, -, hr⟩
    · rw [hr]
      exact .inl rfl
    · rw [hr]
      exact .inl rfl
    · rw [hr]
      exact .inr ⟨_, rfl⟩
    · rw [hr]
      exact .inr ⟨_, rfl⟩
  | update id change =>
    rw [snd_perform_update]
    rcases Store.update_cases (d.surroundings r.now fault).shelf id r.world.store r.world.outside
      change with ⟨-, hr⟩ | ⟨c, -, -, hr⟩ | ⟨c, err, -, -, hr⟩
    · rw [hr]
      exact .inl rfl
    · rw [hr]
      exact .inr ⟨_, rfl⟩
    · rw [hr]
      exact .inr ⟨_, rfl⟩
  | send e =>
    left
    show (if r.world.listening = true then _ else _ : Bool × World (Outside ε)).2.outside.files = _
    split <;> rfl
  | insert | saveCheckTime | finalizer | makeBuildDirectory => exact h.elim
  | _ => exact .inl rfl

end Relay

end Mooring
