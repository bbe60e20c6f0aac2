import Mooring.Proofs.Container.Text
import Mooring.Proofs.Lifecycle.Polling

set_option autoImplicit false

/-!
# What becomes of an event

The time of the last check stands for events that were sent (`Relay.Sound`), and what is sent is
accounted for (`Relay.Kept`): it waits for the tracker or is in its hands, it is in the history that
is saved for its record, or it was lost in one of three ways. The container was not known when the
event was handled; the record could not be saved, and the tracker passed the event over; or the
tracker stopped before it came to the event (`Relay.accounted_of_check`). A history that was saved
is lost only with its record, which gives way to another once the identifiers have come round
(`Relay.replaced_eq_of_move?`).
-/

namespace Mooring

/-! ## The handling of a container event -/

namespace Tracker

/-- What the handling of a container event ends with once its entry was appended. -/
def ended (e : ContainerEvent) (id : Int) (change : StatusChange) :
    Routine (Except Error (Option Int)) :=
  let result := if HistoryEntry.eventEnds e.status then some id else none
  if change.moved then
    .step (.publish (LifecycleEvent.statusChanged id change.before change.after)) fun _ =>
      .done (.ok result)
  else .done (.ok result)

/-- What is left of a handling after the entry of the event was to be appended. -/
def afterAppend (e : ContainerEvent) (id : Int) :
    Except StoreError (Option StatusChange) → Routine (Except Error (Option Int))
  | .error err => .done (.error (.store err))
  | .ok none => .done (.ok none)
  | .ok (some change) => ended e id change

/-- What is left of a handling after the record of the event was looked for. -/
def afterFind (e : ContainerEvent) : Option Int → Routine (Except Error (Option Int))
  | none => .done (.ok none)
  | some id => .step (.append id (HistoryEntry.ofEvent · e)) (afterAppend e id)

theorem run_handleContainer (e : ContainerEvent) :
    (handleContainer e).run = .step (.find e.id) (afterFind e) := by
  show Routine.step _ _ = _
  congr 1
  funext found
  cases found with
  | none => rfl
  | some id =>
    show Routine.step _ _ = Routine.step _ _
    congr 1
    funext appended
    rcases appended with err | _ | change
    · rfl
    · rfl
    · show ((if change.moved = true then _ else _ : Job _).run.bind _ : Routine _) = ended e id change
      unfold ended
      cases change.moved <;> cases HistoryEntry.eventEnds e.status <;> rfl

end Tracker

/-- A record to which the entry of an event was appended has it, whenever it was made. -/
theorem Container.records_event_of_append? {c d : Container} {e : ContainerEvent} {now : Instant}
    (h : c.append? (.ofEvent now e) = some d) (later : Instant) :
    d.records (.ofEvent later e) = true := by
  rw [records_append? h]
  simp [HistoryEntry.sameEvent, HistoryEntry.ofEvent]

/-- Whether the record of an identifier has the entry of an event in its history. -/
def Store.Notes (s : Store) (id : Int) (e : ContainerEvent) : Prop :=
  ∃ c, s.get? id = some c ∧ ∀ now, c.records (.ofEvent now e) = true

theorem Store.Notes.grows {s t : Store} {id : Int} {e : ContainerEvent} (h : s.Notes id e)
    (hst : s.Grows t) : t.Notes id e := by
  obtain ⟨c, hc, hrecords⟩ := h
  obtain ⟨d, hd, hkept⟩ := hst.records hc (hrecords default)
  -- an entry is the same notification whenever it was made
  exact ⟨d, hd, fun _ => hkept⟩

/-- Whether the record of an identifier has the entry of an event, unless it gave way to another. -/
def Store.NotesUnless (s : Store) (replaced : List Int) (id : Int) (e : ContainerEvent) : Prop :=
  s.Notes id e ∨ id ∈ replaced

/-- Whether another store knows the records that a store knows, and notes what it notes, but for the
records that gave way to others. -/
structure Store.Retains (s : Store) (before : List Int) (t : Store) (after : List Int) : Prop where
  known : ∀ id, (s.get? id).isSome = true → (t.get? id).isSome = true
  noted : ∀ id e, s.NotesUnless before id e → t.NotesUnless after id e

theorem Store.Grows.retains {s t : Store} (h : s.Grows t) (replaced : List Int) :
    s.Retains replaced t replaced where
  known := fun _ => h.isSome
  noted := fun _ _ => Or.imp_left fun hnotes => hnotes.grows h

theorem Store.retains_put (s : Store) (c : Container) (replaced : List Int) :
    s.Retains replaced (s.put c)
      (replaced ++ (if (s.get? c.databaseId).isSome then some c.databaseId else none).toList) where
  known := by
    intro id hid
    rw [get?_put]
    split
    · rfl
    · exact hid
  noted := by
    rintro id e (⟨d, hd, hrecords⟩ | hbefore)
    · by_cases hsame : c.databaseId = id
      · refine .inr (List.mem_append_right _ ?_)
        rw [hsame, hd]
        exact List.mem_singleton.2 rfl
      · exact .inl ⟨d, (get?_put_of_ne hsame).trans hd, hrecords⟩
    · exact .inr (List.mem_append_left _ hbefore)

/-- An insertion costs what is noted in the record that it replaces, and nothing else. -/
theorem Store.retains_insert {σ : Type} (s : Store) (shelf : Shelf σ) (record : Instant → Container)
    (c : Container) (disk : σ) (replaced : List Int) :
    s.Retains replaced (s.insert shelf c disk).2.1
      (replaced ++ (s.replaced? (.insert record) (s.insert shelf c disk).1).toList) := by
  rcases insert_cases shelf s disk c with ⟨-, hr⟩ | ⟨err, -, hr⟩
  · obtain ⟨hknown, hnoted⟩ :=
      retains_put (s.skipped.indexed (s.numbered c)) (s.numbered c) replaced
    rw [hr]
    exact ⟨hknown, hnoted⟩
  · rw [hr]
    show s.Retains replaced s.skipped (replaced ++ [])
    rw [List.append_nil]
    exact ⟨fun _ hid => hid, fun _ _ hnotes => hnotes⟩

/-- How far the handling of a container event has got, and what the store knows of it by then. -/
inductive Handling.Stage (store : Store) (replaced : List Int) (e : ContainerEvent) :
    Option Int → Routine (Except Error (Option Int)) → Prop
  | start : Stage store replaced e none (Tracker.handleContainer e).run
  | found {id : Int} (known : (store.get? id).isSome = true) :
      Stage store replaced e (some id) (Tracker.afterFind e (some id))
  | announcing {id : Int} {event : Instant → LifecycleEvent} {value : Option Int}
      (noted : store.NotesUnless replaced id e) :
      Stage store replaced e (some id) (.step (.publish event) fun _ => .done (.ok value))
  | noted {id : Int} {value : Option Int} (noted : store.NotesUnless replaced id e) :
      Stage store replaced e (some id) (.done (.ok value))
  | unknown : Stage store replaced e none (.done (.ok none))
  | unsaved {target : Option Int} {path : String} :
      Stage store replaced e target (.done (.error (.store (.unusable path))))

/-- What a fate of a container event says about the store. -/
def Fate.Holds (store : Store) (replaced : List Int) (e : ContainerEvent) : Fate → Prop
  | handled id => store.NotesUnless replaced id e
  | failed err => ∃ path, err = .store (.unusable path)
  | unknown | cut => True

/-- The record that an event was handled for. -/
def Fate.handled? : Fate → Option Int
  | handled id => some id
  | _ => none

/-- Whether a container event was lost: no record was known, the record could not be saved, or the
tracker stopped before. -/
def Fate.IsLoss : Fate → Prop
  | handled _ => False
  | failed err => ∃ path, err = .store (.unusable path)
  | unknown | cut => True

namespace Handling

variable {s t : Store} {before after : List Int} {e : ContainerEvent} {target : Option Int}
  {rest : Routine (Except Error (Option Int))}

theorem Stage.retains (h : Stage s before e target rest) (hst : s.Retains before t after) :
    Stage t after e target rest := by
  cases h with
  | start => exact .start
  | found known => exact .found (hst.known _ known)
  | announcing noted => exact .announcing (hst.noted _ e noted)
  | noted noted => exact .noted (hst.noted _ e noted)
  | unknown => exact .unknown
  | unsaved => exact .unsaved

theorem stage_ended {id : Int} (h : s.Notes id e) (change : StatusChange) :
    Stage s before e (some id) (Tracker.ended e id change) := by
  unfold Tracker.ended
  cases change.moved with
  | true => exact .announcing (.inl h)
  | false => exact .noted (.inl h)

/-- A handling that has come to its end says what became of the event. -/
theorem Stage.holds (h : Stage s before e target rest) {event : EngineEvent} {fate : Fate}
    (hfate : fate? ⟨event, target, rest⟩ = some fate) : fate.Holds s before e := by
  cases h with
  | start =>
    rw [Tracker.run_handleContainer] at hfate
    cases hfate
  | found known => cases hfate
  | announcing noted => cases hfate
  | noted noted =>
    cases hfate
    exact noted
  | unknown =>
    cases hfate
    trivial
  | unsaved =>
    cases hfate
    exact ⟨_, rfl⟩

end Handling

theorem Fate.Holds.retains {s t : Store} {before after : List Int} {e : ContainerEvent}
    {fate : Fate} (h : fate.Holds s before e) (hst : s.Retains before t after) : fate.Holds t after e := by
  cases fate with
  | handled id => exact hst.noted id e h
  | failed err => exact h
  | unknown => trivial
  | cut => trivial

namespace Relay

open Poller

variable {ε : Type} {d : Deployment ε} {occurs : ContainerEvent → Instant → Prop}
  {fault : Store.Fault} {r r' : Relay ε} {action : Action}

/-! ## The store and its directory -/

/-- The store mirrors its directory, and every identifier of the engine leads to a record. -/
structure Backed (d : Deployment ε) (w : World (Outside ε)) : Prop where
  mirrors : Store.Mirrors d.settings.containersDir w.store w.outside.files
  indexed : w.store.Indexed

/-- A world in which no record, no entry and no waiting event of another one is missing. -/
structure Succeeds (d : Deployment ε) (w w' : World (Outside ε)) : Prop where
  backed : Backed d w'
  grows : w.store.Grows w'.store
  queue : w.queue ⊆ w'.queue

theorem save_shelf (now : Instant) (c : Container) (outside : Outside ε) :
    (d.surroundings now fault).shelf.save c outside =
      ((Store.saveWith d.settings.containersDir fault c outside.files).1,
        { outside with
          files := (Store.saveWith d.settings.containersDir fault c outside.files).2 }) :=
  rfl

theorem keepsIn_shelf (now : Instant) (fault : Store.Fault) :
    Store.KeepsIn d.settings.containersDir Outside.files (d.surroundings now fault).shelf := by
  intro c outside hdir
  rw [save_shelf]
  rcases Store.saveWith_cases hdir fault c with ⟨files, hr, hsaved⟩ | ⟨err, files, hr, hdraft⟩
  · rw [hr]
    exact .inl ⟨_, rfl, hsaved⟩
  · rw [hr]
    exact .inr ⟨err, _, rfl, hdraft⟩

theorem unusable_of_save {now : Instant} {c : Container} {outside : Outside ε} {err : StoreError}
    (h : ((d.surroundings now fault).shelf.save c outside).1 = .error err) :
    ∃ path, err = .unusable path := by
  rw [save_shelf] at h
  exact Store.unusable_of_saveWith h

/-- After a gentle action nothing is missing. -/
theorem Backed.perform (h : Backed d r.world) (haction : action.IsGentle) :
    Succeeds d r.world (r.perform d fault action).2 := by
  have hshelf := keepsIn_shelf (d := d) r.now fault
  cases action with
  | append id entry =>
    rw [perform_append]
    exact ⟨⟨h.mirrors.append hshelf id _, h.indexed.append id _⟩, Store.grows_append id _,
      List.Subset.refl _⟩
  | update id change =>
    rw [snd_perform_update]
    exact ⟨⟨h.mirrors.update hshelf id change, h.indexed.update id change⟩,
      Store.grows_update haction id, List.Subset.refl _⟩
  | send e =>
    show Succeeds d r.world (if r.world.listening = true then _ else _ : Bool × World _).2
    split
    · exact ⟨⟨h.mirrors, h.indexed⟩, .refl _, List.subset_append_left _ _⟩
    · exact ⟨h, .refl _, List.Subset.refl _⟩
  | insert | saveCheckTime | finalizer | makeBuildDirectory => exact haction.elim
  | _ => exact ⟨⟨h.mirrors, h.indexed⟩, .refl _, List.Subset.refl _⟩

/-- After an insertion nothing is missing but what was noted in the record that gave way. -/
theorem Backed.insert (h : Backed d r.world) (fault : Store.Fault) (record : Instant → Container) :
    Backed d (r.perform d fault (.insert record)).2 ∧
      r.world.store.Retains r.replaced (r.perform d fault (.insert record)).2.store
        (r.replaced ++ (r.world.store.replaced? (.insert record)
          (r.perform d fault (.insert record)).1).toList) := by
  rw [perform_insert]
  exact ⟨⟨h.mirrors.insert (keepsIn_shelf r.now fault) _, h.indexed.insert _⟩,
    Store.retains_insert ..⟩

/-- The configuration stands beside the directory of the records. -/
theorem sparesRecords_of_onlyBeside {files files' : FileTree}
    (hdir : files.Stands d.settings.containersDir)
    (h : Server.OnlyBeside d.settings.dataDir "server.json" files files') :
    d.SparesRecords files files' := by
  have hparts := parts_containersDir d.settings
  have hdata : files.Stands d.settings.dataDir := by
    intro front hfront
    apply hdir
    rw [hparts]
    exact hfront.trans (List.prefix_append ..)
  -- what is beside the directory is none of the directories that lead to it
  have hplace : ∀ name, name ≠ "containers" →
      ∀ front, front <+: Files.parts d.settings.containersDir →
        front ≠ Files.parts d.settings.dataDir ++ [name] := by
    rintro name hname _ hfront rfl
    rw [hparts, List.prefix_append_right_inj] at hfront
    exact hname (List.cons_prefix_cons.1 hfront).1
  constructor
  · intro _ front hfront
    have hsame := h hdata front (hplace _ (by decide) front hfront)
      (hplace _ (by decide) front hfront)
    rw [FileTree.at?_congr hsame]
    exact hdir front hfront
  · intro name
    have hlonger : ∀ other, Files.parts d.settings.containersDir ++ [name] ≠
        Files.parts d.settings.dataDir ++ [other] := by
      intro other hplace
      have hlength := congrArg List.length hplace
      simp [hparts] at hlength
    exact h hdata _ (hlonger _) (hlonger _)

/-- What happens beside the directory of the records leaves nothing missing. -/
theorem Backed.spares {w : World (Outside ε)} (h : Backed d w) {outside : Outside ε}
    (hspares : d.SparesRecords w.outside.files outside.files) :
    Succeeds d w { w with outside } :=
  ⟨⟨h.mirrors.congr (hspares.1 h.mirrors.stands) hspares.2, h.indexed⟩, .refl _,
    List.Subset.refl _⟩

/-- Noting the time of a check leaves nothing missing. -/
theorem Backed.saveCheckTime (h : Backed d r.world) {time : Instant} (htime : time.IsValid) :
    Succeeds d r.world (r.perform d fault (.saveCheckTime time)).2 := by
  obtain ⟨answer, files, hsave, hbeside, -⟩ :=
    Server.saveCheckTimeWith_cases d.settings.dataDir isName_server fault htime r.files
  have hfiles : (Server.saveCheckTimeWith d.settings.serverPath fault time r.files).2 = files :=
    congrArg Prod.snd hsave
  rw [perform_saveCheckTime, hfiles]
  exact h.spares (sparesRecords_of_onlyBeside h.mirrors.stands hbeside)

/-- Opening the store again leaves nothing missing in it. -/
theorem Backed.openIn [FileTree.Listing] {w : World (Outside ε)} (h : Backed d w)
    (hback : ∀ c ∈ w.store.records, c.ReadsBack) {store : Store} {files : FileTree}
    (hopen : Store.openIn d.settings.containersDir w.outside.files = (.ok store, files)) :
    Backed d { store, outside := { w.outside with files } } ∧ w.store.Grows store := by
  obtain ⟨t, hopen', hrecords, hmirrors⟩ := h.mirrors.openIn hback
  obtain ⟨hstore, rfl⟩ := Prod.mk.inj (hopen.symm.trans hopen')
  obtain rfl := Except.ok.inj hstore
  refine ⟨⟨hmirrors, Store.indexed_of_openIn hopen⟩, ?_⟩
  intro id c hc
  have hmem : c.unmemoized ∈ store.records := by
    rw [hrecords]
    exact List.mem_map_of_mem (Store.mem_of_get? hc)
  have hget := hmirrors.ordered.get?_of_mem hmem
  rw [Container.databaseId_unmemoized, Store.databaseId_of_get? hc] at hget
  exact ⟨c.unmemoized, hget, List.prefix_rfl⟩

/-! ## What is sent is accounted for -/

/-- Every event that was sent is underway or in the account, and what the account and the progress
of the handling say about container events is so. -/
structure Kept (d : Deployment ε) (r : Relay ε) : Prop where
  backed : Backed d r.world
  sent : ∀ e ∈ r.log.sent, e ∈ r.underway ∨ ∃ fate, (e, fate) ∈ r.account
  account : ∀ e fate, (.container e, fate) ∈ r.account → fate.Holds r.world.store r.replaced e
  handling : ∀ h e, r.handling = some h → h.event = .container e →
    Handling.Stage r.world.store r.replaced e h.target h.rest

/-- What the log counts as sent waits in the channel. -/
theorem mem_sent_observe {e : EngineEvent}
    (h : e ∈ (r.log.observe action (r.perform d fault action).1).sent) :
    e ∈ r.log.sent ∨ e ∈ (r.perform d fault action).2.queue := by
  cases action with
  | send event =>
    by_cases hlistening : r.world.listening = true
    · have hperform : r.perform d fault (.send event) =
          (true, { r.world with queue := r.world.queue ++ [event] }) := if_pos hlistening
      rw [hperform] at h ⊢
      rcases List.mem_append.1 h with hbefore | hnew
      · exact .inl hbefore
      · exact .inr (List.mem_append_right _ hnew)
    · have hperform : r.perform d fault (.send event) = (false, r.world) := if_neg hlistening
      rw [hperform] at h
      exact .inl h
  | loadServer =>
    left
    generalize (r.perform d fault .loadServer).1 = answer at h
    cases answer <;> exact h
  | saveCheckTime time =>
    left
    generalize (r.perform d fault (.saveCheckTime time)).1 = answer at h
    cases answer <;> exact h
  | _ => exact .inl h

/-- What leaves nothing missing keeps the account, if what leaves the channel is accounted for. -/
theorem Kept.keep (h : r.Kept d) (hback : Backed d r'.world)
    (hretains : r.world.store.Retains r.replaced r'.world.store r'.replaced)
    {more : List (EngineEvent × Fate)} (haccount : r'.account = r.account ++ more)
    (hmore : ∀ e fate, (.container e, fate) ∈ more → fate.Holds r'.world.store r'.replaced e)
    (hsent : ∀ e ∈ r'.log.sent, e ∈ r.log.sent ∨ e ∈ r'.underway)
    (hunderway : ∀ e ∈ r.underway, e ∈ r'.underway ∨ ∃ fate, (e, fate) ∈ more)
    (hhandling : ∀ h e, r'.handling = some h → h.event = .container e →
      Handling.Stage r'.world.store r'.replaced e h.target h.rest) : r'.Kept d where
  backed := hback
  sent := by
    intro e he
    rw [haccount]
    have hnew : e ∈ r'.underway ∨ (∃ fate, (e, fate) ∈ more) →
        e ∈ r'.underway ∨ ∃ fate, (e, fate) ∈ r.account ++ more :=
      Or.imp_right fun ⟨fate, hfate⟩ => ⟨fate, List.mem_append_right _ hfate⟩
    rcases hsent e he with hbefore | hwaiting
    · rcases h.sent e hbefore with hwaiting | ⟨fate, hfate⟩
      · exact hnew (hunderway e hwaiting)
      · exact .inr ⟨fate, List.mem_append_left _ hfate⟩
    · exact .inl hwaiting
  account := by
    intro e fate hfate
    rw [haccount] at hfate
    rcases List.mem_append.1 hfate with hbefore | hnew
    · exact (h.account e fate hbefore).retains hretains
    · exact hmore e fate hnew
  handling := hhandling

/-- What leaves nothing missing keeps the account, if nothing leaves the channel. -/
theorem Kept.keepAccount (h : r.Kept d) (hback : Backed d r'.world)
    (hretains : r.world.store.Retains r.replaced r'.world.store r'.replaced)
    (haccount : r'.account = r.account)
    (hsent : ∀ e ∈ r'.log.sent, e ∈ r.log.sent ∨ e ∈ r'.underway)
    (hunderway : ∀ e ∈ r.underway, e ∈ r'.underway)
    (hhandling : ∀ h e, r'.handling = some h → h.event = .container e →
      Handling.Stage r'.world.store r'.replaced e h.target h.rest) : r'.Kept d := by
  refine h.keep hback hretains (haccount.trans (List.append_nil _).symm) ?_ hsent ?_ hhandling
  · intro e fate hfate
    cases hfate
  · intro e he
    exact .inl (hunderway e he)

/-- The handling is as far as it was in a world in which nothing is missing. -/
theorem Kept.stage {w : World (Outside ε)} (h : r.Kept d) (hw : Succeeds d r.world w) :
    ∀ h e, r.handling = some h → h.event = .container e →
      Handling.Stage w.store r.replaced e h.target h.rest :=
  fun handling e hhandling he => (h.handling handling e hhandling he).retains (hw.grows.retains _)

theorem underway_mono {w : World (Outside ε)} (hw : Succeeds d r.world w)
    {e : EngineEvent} (he : e ∈ r.underway) : e ∈ underway { r with world := w } := by
  rcases List.mem_append.1 he with hhandling | hqueue
  · exact List.mem_append_left _ hhandling
  · exact List.mem_append_right _ (hw.queue hqueue)

/-- A world in which nothing is missing keeps the account, whatever became of the poll. -/
theorem Kept.onward {w : World (Outside ε)} (h : r.Kept d) (hw : Succeeds d r.world w)
    {log : Log} (hlog : ∀ e ∈ log.sent, e ∈ r.log.sent ∨ e ∈ w.queue) (now : Instant)
    (poll : Option (Routine (Except Error Nat))) :
    Kept d { r with now, world := w, poll, log } := by
  refine h.keepAccount hw.backed (hw.grows.retains _) rfl ?_ (fun e he => underway_mono hw he)
    (h.stage hw)
  intro e he
  exact (hlog e he).imp_right fun hqueue => List.mem_append_right _ hqueue

/-! ## Every move -/

theorem Kept.advancePoll [FileTree.Listing] (h : r.Kept d) (hsound : r.Sound d occurs)
    (hmove : r.move? d (.advancePoll fault) = some r') : r'.Kept d := by
  cases hpoll : r.poll with
  | none =>
    simp only [move?, hpoll] at hmove
    cases hmove
  | some t =>
    cases t with
    | done result =>
      rw [move?_advancePoll_done hpoll] at hmove
      cases hmove
    | step action next =>
      rw [move?_advancePoll hpoll] at hmove
      cases hmove
      have hw : Succeeds d r.world (r.perform d fault action).2 := by
        rcases (hsound.course _ hpoll).action_cases with hgentle | ⟨now, rfl, hreading⟩
        · exact h.backed.perform hgentle
        · exact h.backed.saveCheckTime (hsound.reading now hreading).2
      exact h.onward hw (fun e he => mem_sent_observe he) _ _

/-- Each action of the tracker takes the handling a stage further. -/
theorem Backed.advance (h : Backed d r.world) {e : ContainerEvent} {target : Option Int}
    {next : action.Answer → Routine (Except Error (Option Int))}
    (hstage : Handling.Stage r.world.store r.replaced e target (.step action next)) :
    Handling.Stage (r.perform d fault action).2.store r.replaced e
      (Handling.found target action (r.perform d fault action).1)
      (next (r.perform d fault action).1) := by
  generalize hrest : Routine.step action next = rest at hstage
  cases hstage with
  | start =>
    rw [Tracker.run_handleContainer] at hrest
    cases hrest
    show Handling.Stage r.world.store r.replaced e (r.world.store.find? e.id)
      (Tracker.afterFind e (r.world.store.find? e.id))
    cases hfind : r.world.store.find? e.id with
    | none => exact .unknown
    | some id => exact .found (h.indexed e.id id hfind)
  | @found id known =>
    cases hrest
    obtain ⟨c, hc⟩ := Option.isSome_iff_exists.1 known
    rw [perform_append]
    rcases Store.append_cases_of_get? (d.surroundings r.now fault).shelf r.world.outside hc
      (HistoryEntry.ofEvent r.now e) with
      ⟨hrefused, hr⟩ | ⟨c', happend, -, hr⟩ | ⟨c', err, -, hfail, hr⟩
    · -- the entry is a duplicate of one that is there
      rw [hr]
      have hrecords := (Container.append?_eq_none_iff c _).1 hrefused
      exact .noted (.inl ⟨c, hc, fun _ => hrecords⟩)
    · rw [hr]
      have hget := Store.get?_put_of_append? hc happend
      exact Handling.stage_ended ⟨c', hget, Container.records_event_of_append? happend⟩ _
    · obtain ⟨path, rfl⟩ := unusable_of_save hfail
      rw [hr]
      exact .unsaved
  | announcing noted =>
    cases hrest
    exact .noted noted
  | noted noted => cases hrest
  | unknown => cases hrest
  | unsaved => cases hrest

theorem Kept.cutOff (h : r.Kept d) {w : World (Outside ε)} (hback : Backed d w)
    (hgrows : r.world.store.Grows w.store) (poll : Option (Routine (Except Error Nat))) :
    Kept d { r.cutOff with world := w, poll } := by
  refine h.keep hback (hgrows.retains _) rfl ?_ (fun e he => .inl he) ?_ ?_
  · intro e fate hfate
    obtain ⟨event, -, heq⟩ := List.mem_map.1 hfate
    obtain ⟨-, rfl⟩ := Prod.mk.inj heq
    trivial
  · intro e he
    exact .inr ⟨.cut, List.mem_map_of_mem he⟩
  · intro handling e hhandling
    cases hhandling

/-- An event that is received goes from the channel to the tracker. -/
theorem Kept.receive [FileTree.Listing] (h : r.Kept d) (hmove : r.move? d .receive = some r') :
    r'.Kept d := by
  obtain ⟨e, queue, hhandling, hqueue, rfl⟩ := of_move?_receive hmove
  have hsame : r.underway = e :: queue := by
    unfold underway
    rw [hhandling, hqueue]
    rfl
  have hback : Backed d { r.world with queue } := ⟨h.backed.mirrors, h.backed.indexed⟩
  refine h.keepAccount hback ((Store.Grows.refl _).retains _) rfl (fun e he => .inl he) ?_ ?_
  · intro event hevent
    rw [hsame] at hevent
    exact hevent
  · rintro _ event ⟨⟩ rfl
    exact .start

theorem Kept.advanceHandling [FileTree.Listing] (h : r.Kept d) (hsound : r.Sound d occurs)
    (hmove : r.move? d (.advanceHandling fault) = some r') : r'.Kept d := by
  obtain ⟨event, target, action, next, hhandling, rfl⟩ := of_move?_advanceHandling hmove
  have hw : Succeeds d r.world (r.perform d fault action).2 :=
    h.backed.perform (hsound.gentle _ hhandling).1
  refine h.keepAccount hw.backed (hw.grows.retains _) rfl (fun e he => .inl he) ?_ ?_
  · intro e he
    have hkept := underway_mono hw he
    unfold underway at hkept ⊢
    rw [hhandling] at hkept
    exact hkept
  · rintro _ e ⟨⟩ rfl
    exact h.backed.advance (h.handling _ e hhandling rfl)

/-- An event that is settled goes from the tracker to the account. -/
theorem Kept.settle [FileTree.Listing] (h : r.Kept d) (hmove : r.move? d .settle = some r') :
    r'.Kept d := by
  obtain ⟨handling, fate, hhandling, hfate, rfl⟩ := of_move?_settle hmove
  refine h.keep h.backed ((Store.Grows.refl _).retains _) rfl ?_ (fun e he => .inl he) ?_ ?_
  · intro e fate' hmem
    obtain ⟨he, rfl⟩ := Prod.mk.inj (List.mem_singleton.1 hmem)
    exact (h.handling handling e hhandling he.symm).holds hfate
  · intro e he
    rcases List.mem_append.1 he with hhandled | hqueue
    · rw [hhandling] at hhandled
      obtain rfl := List.mem_singleton.1 hhandled
      exact .inr ⟨fate, List.mem_singleton.2 rfl⟩
    · exact .inl hqueue
  · intro other e hother
    cases hother

/-- Nothing gives way to what a gentle action does. -/
theorem toList_replaced?_of_isGentle (s : Store) (h : action.IsGentle) (answer : action.Answer) :
    (s.replaced? action answer).toList = [] := by
  cases action with
  | insert record => exact h.elim
  | _ => rfl

theorem Kept.gentle (h : r.Kept d) (haction : action.IsGentle) :
    Kept d { r with
      world := (r.perform d fault action).2
      replaced := r.replaced ++
        (r.world.store.replaced? action (r.perform d fault action).1).toList } := by
  rw [toList_replaced?_of_isGentle _ haction, List.append_nil]
  exact h.onward (h.backed.perform haction) (fun e he => .inl he) _ _

/-- What somebody else does keeps the account, if it is reckoned with. -/
theorem Kept.act [FileTree.Listing] (h : r.Kept d) (hadmits : r.Admits d (.act action fault))
    (hmove : r.move? d (.act action fault) = some r') : r'.Kept d := by
  obtain rfl := of_move?_act hmove
  cases action with
  | insert record =>
    obtain ⟨hback, hretains⟩ := h.backed.insert fault record
    refine h.keepAccount hback hretains rfl (fun e he => .inl he) (fun e he => he) ?_
    intro handling e hhandling he
    exact (h.handling handling e hhandling he).retains hretains
  | _ => exact h.gentle hadmits

/-- Every move keeps the account. -/
theorem Kept.move [FileTree.Listing] (h : r.Kept d) (hsound : r.Sound d occurs) {m : Move ε}
    (hadmits : r.Admits d m) (hmove : r.move? d m = some r') : r'.Kept d := by
  cases m with
  | startPoll =>
    cases hmove
    exact ⟨h.backed, h.sent, h.account, h.handling⟩
  | advancePoll fault => exact h.advancePoll hsound hmove
  | receive => exact h.receive hmove
  | advanceHandling fault => exact h.advanceHandling hsound hmove
  | settle => exact h.settle hmove
  | act action fault => exact h.act hadmits hmove
  | elapse now outside =>
    cases hmove
    exact h.onward (h.backed.spares hadmits.2.2.2) (fun e he => .inl he) _ _
  | close =>
    cases hmove
    have hback : Backed d { r.world with listening := false, queue := [] } :=
      ⟨h.backed.mirrors, h.backed.indexed⟩
    exact h.cutOff hback (.refl _) r.poll
  | restart =>
    obtain ⟨store, files, hopen, rfl⟩ := of_move?_restart hmove
    obtain ⟨hback, hgrows⟩ := h.backed.openIn hadmits hopen
    exact h.cutOff hback hgrows _

theorem IsFresh.kept (h : r.IsFresh d) (hback : Backed d r.world) : r.Kept d where
  backed := hback
  sent := by
    intro e he
    rw [h.log] at he
    cases he
  account := by
    intro e fate hfate
    rw [h.account] at hfate
    cases hfate
  handling := by
    intro handling e hhandling
    rw [h.handling] at hhandling
    cases hhandling

theorem kept_of_reachable [FileTree.Listing] (hengine : d.Reports occurs) {first : Relay ε}
    (hfirst : first.IsFresh d) (hback : Backed d first.world) (h : Reachable d first r) :
    r.Kept d := by
  induction h with
  | refl => exact hfirst.kept hback
  | step m hbefore hadmits hmove ih =>
    exact ih.move (sound_of_reachable hengine hfirst hbefore) hadmits hmove

/-- No record gives way in a move while the next identifier is free, and it is free until the
identifiers come round (`Store.isAhead_of_openIn`, `Store.Adds.isAhead`). -/
theorem replaced_eq_of_move? [FileTree.Listing]
    (hfree : r.world.store.get? r.world.store.nextId = none) {m : Move ε}
    (hmove : r.move? d m = some r') : r'.replaced = r.replaced := by
  cases m with
  | startPoll | elapse | close =>
    cases hmove
    rfl
  | advancePoll fault =>
    simp only [move?] at hmove
    split at hmove
    · cases hmove
      rfl
    · cases hmove
  | receive =>
    obtain ⟨-, -, -, -, rfl⟩ := of_move?_receive hmove
    rfl
  | advanceHandling fault =>
    obtain ⟨-, -, -, -, -, rfl⟩ := of_move?_advanceHandling hmove
    rfl
  | settle =>
    obtain ⟨-, -, -, -, rfl⟩ := of_move?_settle hmove
    rfl
  | act action fault =>
    obtain rfl := of_move?_act hmove
    have hnone : (r.world.store.replaced? action (r.perform d fault action).1).toList = [] := by
      cases action with
      | insert record =>
        rw [perform_insert]
        rcases Store.insert_cases (d.surroundings r.now fault).shelf r.world.store r.world.outside
          (record r.now) with ⟨-, hr⟩ | ⟨err, -, hr⟩
        · rw [hr]
          show (if (r.world.store.get? r.world.store.nextId).isSome = true then _
            else none : Option Int).toList = []
          rw [hfree]
          rfl
        · rw [hr]
          rfl
      | _ => rfl
    show r.replaced ++ _ = r.replaced
    rw [hnone, List.append_nil]
  | restart =>
    obtain ⟨-, -, -, rfl⟩ := of_move?_restart hmove
    rfl

/-! ## What a check stands for -/

/-- The time of the last check that is saved. -/
def checked? (d : Deployment ε) (r : Relay ε) : Option Instant :=
  match Server.load d.settings.serverPath r.files with
  | .ok (some server) => server.lastEventCheck
  | _ => none

/-- Whether the file of a record has the entry of an event in its history. -/
def OnDisk (d : Deployment ε) (r : Relay ε) (id : Int) (e : ContainerEvent) : Prop :=
  ∃ c : Container,
    r.files.below? d.settings.containersDir (Store.recordName id) = some (.file c.text) ∧
      ∀ now, c.records (.ofEvent now e) = true

/-- What is noted in the store is on disk. -/
theorem Kept.onDisk (h : r.Kept d) {id : Int} {e : ContainerEvent}
    (hnotes : r.world.store.Notes id e) : r.OnDisk d id e := by
  obtain ⟨c, hc, hrecords⟩ := hnotes
  refine ⟨c, ?_, hrecords⟩
  have hsaved := h.backed.mirrors.saved c (Store.mem_of_get? hc)
  rw [Store.databaseId_of_get? hc] at hsaved
  rw [FileTree.below?_eq_lookup (Store.isName_recordName id)]
  exact hsaved

theorem mem_noted_of_checked? (h : r.Sound d occurs) {check : Instant}
    (hcheck : r.checked? d = some check) : check ∈ r.log.noted := by
  unfold checked? at hcheck
  split at hcheck
  · next server hload => exact h.configured server hload check hcheck
  · cases hcheck

/-- In every relay that any moves lead to, wherever saves failed and the process stopped: an event
of an earlier second than the saved time of the last check was sent, and it is in the hands of the
tracker or waits for it, or it was handled for a record whose file has it in its history, unless the
record gave way to another, or each time it left the channel it was lost. -/
theorem accounted_of_check [FileTree.Listing] (hengine : d.Reports occurs) {first : Relay ε}
    (hfirst : first.IsFresh d) (hback : Backed d first.world) (h : Reachable d first r)
    {check : Instant} (hcheck : r.checked? d = some check) {e : ContainerEvent} {t : Instant}
    (he : occurs e t) (hepoch : .epoch ≤ t) (hbefore : e.time < check.seconds) :
    .container e ∈ r.log.sent ∧
      (.container e ∈ r.underway ∨
      (∃ id, (.container e, .handled id) ∈ r.account ∧ (r.OnDisk d id e ∨ id ∈ r.replaced)) ∨
      (∃ fate, (.container e, fate) ∈ r.account) ∧
        ∀ fate, (.container e, fate) ∈ r.account → fate.IsLoss) := by
  have hsound := sound_of_reachable hengine hfirst h
  have hkept := kept_of_reachable hengine hfirst hback h
  have hearlier : t ≤ check := by
    apply Instant.le_of_seconds_lt
    rw [← hengine.time e t he]
    exact hbefore
  have hsent : .container e ∈ r.log.sent :=
    hsound.covered check (mem_noted_of_checked? hsound hcheck) e t he hepoch hearlier
  refine ⟨hsent, ?_⟩
  rcases hkept.sent _ hsent with hwaiting | hfate
  · exact .inl hwaiting
  · by_cases hhandled : ∃ id, (.container e, .handled id) ∈ r.account
    · obtain ⟨id, hid⟩ := hhandled
      exact .inr (.inl ⟨id, hid, (hkept.account e _ hid).imp_left hkept.onDisk⟩)
    · refine .inr (.inr ⟨hfate, ?_⟩)
      intro fate hmem
      cases fate with
      | handled id => exact absurd ⟨id, hmem⟩ hhandled
      | failed err => exact hkept.account e _ hmem
      | unknown => trivial
      | cut => trivial

/-! ## Events that a check passes -/

/-- The record of the container that starts. -/
def launched : Container :=
  { commandId := 1, containerId := some "abc", userId := "u", image := "i", commandLine := "l",
    statusTime := ⟨99, 0⟩ }

/-- The record is added. -/
def launching : Move Unit :=
  .act (.insert fun _ => launched) .none

/-- The event is recorded. -/
def recording : List (Move Unit) :=
  [.receive, .advanceHandling .none, .advanceHandling .none, .advanceHandling .none, .settle]

theorem backed_atFirst : Backed quiet atFirst.world where
  mirrors :=
    Store.mirrors_empty (FileTree.stands_of_makeDirs? (t := atFirst.files) rfl) (by decide +kernel)
  indexed := Store.indexed_empty

theorem run_recording : ((atFirst.run? quiet (launching :: polling .none ++ recording)).map fun r =>
    (r.checked? quiet, r.underway, r.replaced, r.account.map fun p => p.2.handled?)) =
      some (some ⟨101, 0⟩, [], [], [some 1]) := by
  decide +kernel

/-- The event is recorded after the check was noted. -/
theorem accounted_of_check_recorded :
    ∃ r, Reachable quiet atFirst r ∧ r.checked? quiet = some ⟨101, 0⟩ ∧
      ∃ id, (.container started, .handled id) ∈ r.account ∧ r.OnDisk quiet id started := by
  obtain ⟨r, hrun, hseen⟩ := Option.map_eq_some_iff.1 run_recording
  obtain ⟨hcheck, hseen⟩ := Prod.mk.inj hseen
  obtain ⟨hunderway, hseen⟩ := Prod.mk.inj hseen
  obtain ⟨hreplaced, haccount⟩ := Prod.mk.inj hseen
  have hreachable : Reachable quiet atFirst r := Reachable.refl.run? rfl hrun
  refine ⟨r, hreachable, hcheck, ?_⟩
  obtain ⟨-, hwaiting | ⟨id, hhandled, hdisk⟩ | ⟨⟨fate, hfate⟩, hlost⟩⟩ :=
    accounted_of_check (e := started) (t := ⟨100, 5⟩) reports_quiet isFresh_atFirst backed_atFirst
      hreachable hcheck (List.mem_singleton.2 rfl) (Instant.le_of_seconds_lt (by decide)) (by decide)
  · rw [hunderway] at hwaiting
    cases hwaiting
  · rw [hreplaced] at hdisk
    exact ⟨id, hhandled, hdisk.resolve_right List.not_mem_nil⟩
  · have hhandled := List.mem_map_of_mem (f := fun p : EngineEvent × Fate => p.2.handled?) hfate
    rw [haccount] at hhandled
    have hloss := hlost fate hfate
    cases fate with
    | handled id => exact hloss.elim
    | _ => cases List.mem_singleton.1 hhandled

/-- Whether the saved time of the last check passes no event that is still to be recorded for a
container that the store knows. -/
def NeverPasses (d : Deployment ε) (occurs : ContainerEvent → Instant → Prop) (r : Relay ε) :
    Prop :=
  ∀ check, r.checked? d = some check → ∀ e t, occurs e t → .epoch ≤ t → e.time < check.seconds →
    ∀ id, r.world.store.find? e.id = some id → r.OnDisk d id e ∨ .container e ∈ r.underway

/-- The time of the last check, the events underway, and what the store knows of the container. -/
def seen (r : Relay Unit) : Option Instant × List EngineEvent × Option Int × Option Container :=
  (r.checked? quiet, r.underway, r.world.store.find? started.id, r.world.store.get? 1)

/-- The check was noted, nothing is underway, and the record of the container has no history. -/
def passed : Option Instant × List EngineEvent × Option Int × Option Container :=
  (some ⟨101, 0⟩, [], some 1, some (Store.numbered .empty launched))

/-- Whether the check has passed the event after some moves. -/
def Passes (moves : List (Move Unit)) : Prop :=
  ∃ r, Reachable quiet atFirst r ∧ atFirst.run? quiet moves = some r ∧
    ¬ r.NeverPasses quiet fun e t => (e, t) ∈ happenings

/-- The event is handled, and its entry cannot be saved. -/
def unsaved : List (Move Unit) :=
  launching :: polling .none ++
    [.receive, .advanceHandling .none, .advanceHandling (.write none), .settle]

/-- The tracker stops before it comes to the event. -/
def stopped : List (Move Unit) :=
  launching :: polling .none ++ [.close]

/-- The event is handled before the record is added. -/
def early : List (Move Unit) :=
  polling .none ++ [.receive, .advanceHandling .none, .settle, launching]

/-- Whether this is what can be seen after some moves. -/
def isPassed (moves : List (Move Unit)) : Bool :=
  (atFirst.run? quiet moves).map seen = some passed

theorem isPassed_lost : (isPassed unsaved && isPassed stopped && isPassed early) = true := by
  decide +kernel

theorem passes_of_isPassed {moves : List (Move Unit)} (hplain : moves.all Move.IsPlain = true)
    (hpassed : isPassed moves = true) : Passes moves := by
  obtain ⟨r, hrun, hseen⟩ := Option.map_eq_some_iff.1 (of_decide_eq_true hpassed)
  obtain ⟨hcheck, hseen⟩ := Prod.mk.inj hseen
  obtain ⟨hunderway, hseen⟩ := Prod.mk.inj hseen
  obtain ⟨hfind, hget⟩ := Prod.mk.inj hseen
  have hreachable : Reachable quiet atFirst r := Reachable.refl.run? hplain hrun
  refine ⟨r, hreachable, hrun, ?_⟩
  intro hnever
  rcases hnever ⟨101, 0⟩ hcheck started ⟨100, 5⟩ (List.mem_singleton.2 rfl)
    (Instant.le_of_seconds_lt (by decide)) (by decide) 1 hfind with ⟨c, hfile, hrecords⟩ | hwaiting
  · -- the file is that of the record, and its text tells that there is no history
    have hkept := kept_of_reachable reports_quiet isFresh_atFirst backed_atFirst hreachable
    have hsaved := hkept.backed.mirrors.saved _ (Store.mem_of_get? hget)
    rw [FileTree.below?_eq_lookup (Store.isName_recordName 1)] at hfile
    have htext := Option.some.inj (hfile.symm.trans hsaved)
    have hnil := Container.history_eq_nil_of_text (FileNode.file.inj htext) rfl
    have hnone := hrecords default
    unfold Container.records at hnone
    rw [hnil] at hnone
    cases hnone
  · rw [hunderway] at hwaiting
    cases hwaiting

/-- A check passes an event whose entry cannot be saved, one that the tracker stops before, and one
whose container is not known yet when it is handled. -/
theorem passes_lost : Passes unsaved ∧ Passes stopped ∧ Passes early := by
  obtain ⟨hboth, hearly⟩ := Bool.and_eq_true_iff.1 isPassed_lost
  obtain ⟨hunsaved, hstopped⟩ := Bool.and_eq_true_iff.1 hboth
  exact ⟨passes_of_isPassed rfl hunsaved, passes_of_isPassed rfl hstopped,
    passes_of_isPassed rfl hearly⟩

end Relay

end Mooring
