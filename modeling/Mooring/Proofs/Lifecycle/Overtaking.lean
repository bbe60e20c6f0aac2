import Mooring.Proofs.Lifecycle.Overlap

set_option autoImplicit false

/-!
# A kill during the launch

What holds between the stages of a launch and of a kill is kept by every step of either, where
changes are saved and the engine does what it is asked (`Agree`). After a kill that is answered with
a terminal status nothing of the launch runs, if the kill found the record with an identifier of the
engine. A kill that comes before this identifier is noted asks nothing of the engine, and the launch
goes on to run what the record says was killed (`killHolds_iff`, `not_killHolds_early`).
-/

namespace Mooring.Overlap

open Routine

variable {σ : Type} {l : Launcher} {id : Int} {user : String} {c : Container}

/-! ## What holds between the two -/

/-- Whether the status of a record is the one it was created with, by its history too. -/
def IsCreated (c : Container) : Prop :=
  c.status = .created ∧ (statusOf c.history).map Prod.fst = some .created

/-- Whether a record is the one of a launch, with the identifier that was noted in it. -/
structure IsRecord (l : Launcher) (stage : LaunchStage) (c : Container) : Prop where
  swarm : c.swarm = l.swarm
  noted : l.IsAt stage.noted? c

/-- Whether a kill could have come to its stage, by the stage of the launch and what it found. -/
def Fits (l : Launcher) (stage : LaunchStage) (found : Option Container) : KillStage → Prop
  | .waiting => found = none
  | .missed => True
  | .plain => stage ≠ .ready
  | .unseen => stage ≠ .ready ∧ ∃ c, found = some c ∧ c.externalId? = none
  | .service external | .removed external => l.swarm = true ∧ stage = .noted external ∧
      ∃ c, found = some c ∧ c.externalId? = some external

/-- What holds between the stages of a launch and of a kill, the store, and what both did. -/
structure Agree (l : Launcher) (id : Int) (launch : LaunchStage) (kill : KillStage)
    (store : Store) (log : List (Party × Deed)) : Prop where
  fresh : launch = .ready → store.nextId = id ∧ store.get? id = none
  record : launch ≠ .ready → ∃ c, store.get? id = some c ∧ IsRecord l launch c ∧
    (kill.isOpen = true → IsCreated c)
  plain : ∀ external, launch = .started external → l.swarm = false
  fits : Fits l launch (seen? log) kill
  running : kill ≠ .plain → running log = if kill.isRemoved then [] else launch.up l

variable {s : Surroundings σ} {w w' : World σ} {launch launch' : LaunchStage}
  {kill kill' : KillStage} {log : List (Party × Deed)} {action : Action}
  {answer : action.Answer}

theorem Agree.launch_ne_ready_of_record (h : Agree l id launch kill w.store log)
    (hc : w.store.get? id = some c) : launch ≠ .ready := by
  intro hready
  rw [(h.fresh hready).2] at hc
  cases hc

theorem Agree.record_of_get? (h : Agree l id launch kill w.store log)
    (hc : w.store.get? id = some c) :
    launch ≠ .ready ∧ IsRecord l launch c ∧ (kill.isOpen = true → IsCreated c) := by
  have hne := h.launch_ne_ready_of_record hc
  obtain ⟨d, hd, hrecord⟩ := h.record hne
  obtain rfl : c = d := Option.some.inj (hc.symm.trans hd)
  exact ⟨hne, hrecord⟩

/-- A record in service mode is known by the identifier that was noted. -/
theorem IsRecord.externalId? (h : IsRecord l launch c) : c.externalId? = launch.noted? := by
  obtain ⟨hswarm, hcontainer, hservice⟩ := h
  unfold Container.externalId?
  rw [hswarm, hcontainer, hservice]
  cases l.swarm <;> simp

/-! ## Steps of the launch -/

theorem perform_update (hs : s.Saves) (hc : w.store.get? id = some c)
    {change : Container → Container} (hchange : (change c).databaseId = c.databaseId) :
    ∃ w', s.perform w (.update id change) = (.ok (change c), w') ∧
      w.store.Becomes id (change c) w'.store := by
  obtain ⟨w', hrun, hbecomes⟩ := Tracker.run_update_of_saves hs hc hchange
  cases hp : s.perform w (.update id change) with
  | mk answer w'' =>
    have hanswer : (answer.mapError Error.store, w'') = (.ok (change c), w') := by
      rw [← hrun]
      exact congrArg (fun r => (r.1.mapError Error.store, r.2)) hp.symm
    cases answer with
    | error e => cases hanswer
    | ok d =>
      cases hanswer
      exact ⟨w', rfl, hbecomes⟩

theorem perform_insert (hs : s.Saves) (record : Instant → Container) :
    ∃ w', s.perform w (.insert record) = (.ok w.store.nextId, w') ∧
      w'.store.get? w.store.nextId = some (w.store.numbered (record (s.now w.outside))) := by
  have hinsert := Store.insert_of_saves (s := w.store) w.outside hs (record (s.now w.outside))
  refine ⟨_, congrArg (fun r => w.afterStore r) hinsert, ?_⟩
  exact Store.get?_put_of_eq rfl

/-- In a world where everything succeeds, the launch is answered as it expects. -/
theorem launchExpects (hs : s.Succeeds) (h : Agree l id launch kill w.store log)
    (hp : s.perform w action = (answer, w')) : LaunchExpects id launch action answer := by
  cases action with
  | insert record =>
    intro hready
    obtain ⟨hnext, -⟩ := h.fresh hready
    subst hnext
    obtain ⟨w'', hinsert, -⟩ := perform_insert hs.saves record
    exact (Prod.mk.inj (hp.symm.trans hinsert)).1
  | engine call =>
    obtain ⟨value, hvalue⟩ := hs.engine call w.outside
    exact ⟨value, (Prod.mk.inj hp).1.symm.trans hvalue⟩
  | update other change =>
    rintro rfl hne hchange
    obtain ⟨c, hc, -⟩ := h.record hne
    obtain ⟨w'', hupdate, -⟩ := perform_update hs.saves hc (hchange c)
    exact ⟨change c, (Prod.mk.inj (hp.symm.trans hupdate)).1⟩
  | _ => trivial

/-- A kill that has not found a service yet goes on to fit. -/
theorem Fits.next {found : Option Container} (h : Fits l launch found kill)
    (hne : l.swarm = true → ∀ external, launch ≠ .noted external) (hready : launch' ≠ .ready) :
    kill.isRemoved = false ∧ Fits l launch' found kill := by
  cases kill with
  | waiting => exact ⟨rfl, h⟩
  | missed => exact ⟨rfl, trivial⟩
  | plain => exact ⟨rfl, hready⟩
  | unseen => exact ⟨rfl, hready, h.2⟩
  | service external => exact absurd h.2.1 (hne h.1 external)
  | removed external => exact absurd h.2.1 (hne h.1 external)

/-- A step of the launch that changes no record and brings nothing up. -/
theorem Agree.launch_idle (h : Agree l id launch kill w.store log)
    (hp : s.perform w action = (answer, w')) (hspares : action.SparesStore)
    (hidle : ∀ up, Deed.apply up ⟨action, answer⟩ = up) :
    Agree l id launch kill w'.store (log ++ [(.launch, ⟨action, answer⟩)]) := by
  have hstore : w'.store = w.store := by
    rw [← store_perform s w hspares, hp]
  rw [hstore]
  refine ⟨h.fresh, h.record, h.plain, ?_, fun hkill => ?_⟩
  · rw [seen?_launch]
    exact h.fits
  · rw [running_concat, hidle]
    exact h.running hkill

/-- A step of the launch to another stage, with the record that it leaves. -/
theorem Agree.launch_on (h : Agree l id launch kill w.store log)
    (hne : l.swarm = true → ∀ external, launch ≠ .noted external) (hready : launch' ≠ .ready)
    (hplain : ∀ external, launch' = .started external → l.swarm = false)
    (hrecord : ∃ c, w'.store.get? id = some c ∧ IsRecord l launch' c ∧
      (kill.isOpen = true → IsCreated c))
    (hup : Deed.apply (launch.up l) ⟨action, answer⟩ = launch'.up l) :
    Agree l id launch' kill w'.store (log ++ [(.launch, ⟨action, answer⟩)]) := by
  obtain ⟨hremoved, hfits⟩ := h.fits.next hne hready
  refine ⟨fun h' => absurd h' hready, fun _ => hrecord, hplain, ?_, fun hkill => ?_⟩
  · rw [seen?_launch]
    exact hfits
  · have hrunning := h.running hkill
    rw [hremoved] at hrunning ⊢
    rw [running_concat, hrunning]
    exact hup

/-- A call of the launch to the engine leaves the record as it is. -/
theorem Agree.record_of_spares (h : Agree l id launch kill w.store log)
    (hp : s.perform w action = (answer, w')) (hspares : action.SparesStore)
    (hready : launch ≠ .ready) (hnoted : launch'.noted? = launch.noted?) :
    ∃ c, w'.store.get? id = some c ∧ IsRecord l launch' c ∧ (kill.isOpen = true → IsCreated c) := by
  have hstore : w'.store = w.store := by
    rw [← store_perform s w hspares, hp]
  obtain ⟨c, hc, hrecord, hopen⟩ := h.record hready
  rw [hstore]
  exact ⟨c, hc, ⟨hrecord.swarm, hnoted ▸ hrecord.noted⟩, hopen⟩

/-- Every step of the launch keeps what holds. -/
theorem Agree.launch_step (hs : s.Succeeds) (h : Agree l id launch kill w.store log)
    (hp : s.perform w action = (answer, w')) (hleads : LaunchLeads l id launch action answer launch') :
    Agree l id launch' kill w'.store (log ++ [(.launch, ⟨action, answer⟩)]) := by
  cases hleads with
  | prepare hprepare =>
    have hfree : action.IsCallFree ∧ action.SparesStore := by
      cases action <;> first | exact ⟨trivial, trivial⟩ | exact False.elim hprepare
    exact h.launch_idle hp hfree.2 (Deed.apply_of_isCallFree hfree.1 answer)
  | ping => exact h.launch_idle hp trivial fun _ => rfl
  | look => exact h.launch_idle hp trivial fun _ => rfl
  | @insert user r =>
    obtain ⟨rfl, -⟩ := h.fresh rfl
    obtain ⟨w'', hinsert, hget⟩ := perform_insert hs.saves (l.firstRecord user r)
    obtain rfl : w'' = w' := (Prod.mk.inj (hinsert.symm.trans hp)).2
    refine h.launch_on (fun _ => nofun) nofun nofun ⟨_, hget, ⟨rfl, ?_⟩, fun _ => ⟨rfl, rfl⟩⟩ rfl
    exact Launcher.isAt_firstRecord l w.store user r _
  | createContainer plain =>
    refine h.launch_on (fun _ => nofun) nofun nofun (h.record_of_spares hp trivial nofun rfl) ?_
    simp [Deed.apply, LaunchStage.up, plain]
  | createService swarm =>
    refine h.launch_on (fun _ => nofun) nofun nofun (h.record_of_spares hp trivial nofun rfl) ?_
    simp [Deed.apply, LaunchStage.up, swarm]
  | @note external =>
    obtain ⟨c, hc, hrecord, hopen⟩ := h.record nofun
    obtain ⟨w'', hupdate, hbecomes⟩ :=
      perform_update hs.saves hc (l.databaseId_withEngineId external c)
    obtain rfl : w'' = w' := (Prod.mk.inj (hupdate.symm.trans hp)).2
    refine h.launch_on (fun _ => nofun) nofun nofun ⟨_, hbecomes.record, ?_, fun hkill => ?_⟩ rfl
    · have hswarm := congrArg Container.swarm (l.withEngineId_eq external c)
      exact ⟨hswarm.trans hrecord.swarm, Launcher.isAt_withEngineId hrecord.noted external⟩
    · unfold IsCreated
      rw [l.status_withEngineId, l.history_withEngineId]
      exact hopen hkill
  | start plain =>
    refine h.launch_on (fun hswarm => ?_) nofun (fun _ _ => plain)
      (h.record_of_spares hp trivial nofun rfl) ?_
    · rw [plain] at hswarm
      cases hswarm
    · simp [Deed.apply, LaunchStage.up, plain]

/-! ## Steps of the kill -/

/-- In a world where they agree, the kill is answered as it expects. -/
theorem killExpects (h : Agree l id launch kill w.store log)
    (hp : s.perform w action = (answer, w')) : KillExpects l id kill action answer := by
  cases action with
  | get other =>
    rintro hopen rfl c rfl
    obtain ⟨-, hrecord, hcreated⟩ := h.record_of_get? (Prod.mk.inj hp).1
    exact ⟨(hcreated hopen).1, hrecord.swarm⟩
  | _ => trivial

section Changes

variable {d : Container} {entry : HistoryEntry}

theorem IsRecord.of_append? (h : IsRecord l launch c) (hd : c.append? entry = some d) :
    IsRecord l launch d :=
  ⟨(Container.containerId_of_append? hd).2.2.trans h.swarm, h.noted.of_append? hd⟩

/-- What a user asks for leaves the status as it was. -/
theorem IsCreated.of_append? (h : IsCreated c) (horigin : entry.origin = .user)
    (hd : c.append? entry = some d) : IsCreated d := by
  have hsame : statusOf d.history = statusOf c.history := by
    rw [Container.statusOf_of_append? hd]
    simp [nextStatus, HistoryEntry.status?, horigin]
  constructor
  · rw [Container.status_of_append? hd, hsame, h.2]
    rfl
  · rw [hsame, h.2]

/-- An entry leaves the record one of the launch, and what a user asks for leaves it open. -/
theorem record_of_append (hc : w.store.get? id = some c) (hrecord : IsRecord l launch c)
    (other : Int) (entry : Instant → HistoryEntry) :
    ∃ d, (s.perform w (.append other entry)).2.store.get? id = some d ∧ IsRecord l launch d ∧
      ((∀ now, (entry now).origin = .user) → IsCreated c → IsCreated d) := by
  show ∃ d, (w.store.append s.shelf other (entry (s.now w.outside)) w.outside).2.1.get? id =
    some d ∧ _
  by_cases hother : id = other
  · subst hother
    rcases Store.store_append_cases s.shelf id w.store w.outside (entry (s.now w.outside)) with
      hr | ⟨c', d, hc', hd, hr⟩
    · exact ⟨c, by rw [hr]; exact hc, hrecord, fun _ h => h⟩
    · obtain rfl : c = c' := Option.some.inj (hc.symm.trans hc')
      refine ⟨d, ?_, hrecord.of_append? hd, fun horigin h => h.of_append? (horigin _) hd⟩
      rw [hr]
      exact Store.get?_put_of_append? hc hd
  · refine ⟨c, ?_, hrecord, fun _ h => h⟩
    rw [Store.get?_append_of_ne s.shelf w.outside _ hother]
    exact hc

/-- Files of the finalizer leave the record one of the launch. -/
theorem record_of_withPaths (hc : w.store.get? id = some c) (hrecord : IsRecord l launch c)
    (other : Int) (paths : List String) :
    ∃ d, (s.perform w (.update other (Container.withPaths paths))).2.store.get? id = some d ∧
      IsRecord l launch d := by
  have hkept : ∀ c, (Container.withPaths paths c).databaseId = c.databaseId := fun _ => rfl
  rw [Surroundings.snd_perform_update]
  show ∃ d, (w.store.update s.shelf other (Container.withPaths paths) w.outside).2.1.get? id =
    some d ∧ _
  by_cases hother : id = other
  · subst hother
    rcases Store.store_update_cases s.shelf id w.store w.outside (Container.withPaths paths) with
      hr | ⟨c', hc', hr⟩
    · exact ⟨c, by rw [hr]; exact hc, hrecord⟩
    · obtain rfl : c = c' := Option.some.inj (hc.symm.trans hc')
      refine ⟨Container.withPaths paths c, ?_, ⟨hrecord.swarm, hrecord.noted⟩⟩
      rw [hr]
      exact Store.get?_put_of_eq ((hkept c).trans (Store.databaseId_of_get? hc))
  · refine ⟨c, ?_, hrecord⟩
    rw [Store.get?_update_of_ne s.shelf w.outside hkept hother]
    exact hc

/-- To finalize a record leaves it one of the launch. -/
theorem record_of_finalizing (hfinalizing : IsFinalizing action) (hc : w.store.get? id = some c)
    (hrecord : IsRecord l launch c) :
    ∃ d, (s.perform w action).2.store.get? id = some d ∧ IsRecord l launch d := by
  cases action with
  | append other entry =>
    obtain ⟨d, hd, hrecord', -⟩ := record_of_append hc hrecord other entry
    exact ⟨d, hd, hrecord'⟩
  | update other change =>
    rcases hfinalizing with ⟨t, hfalse, -⟩ | ⟨paths, rfl⟩
    · exact False.elim hfalse
    · exact record_of_withPaths hc hrecord other paths
  | insert record => exact False.elim hfinalizing
  | _ =>
    refine ⟨c, (congrArg (fun t : Store => t.get? id) (store_perform s w ?_)).trans hc, hrecord⟩
    trivial

/-- Whether a step leaves the record one of the launch, and as it was created while the kill is
open. -/
def LeavesRecord (l : Launcher) (id : Int) (launch : LaunchStage) (kill : KillStage)
    (store store' : Store) : Prop :=
  ∀ c, store.get? id = some c → IsRecord l launch c →
    ∃ d, store'.get? id = some d ∧ IsRecord l launch d ∧
      (kill.isOpen = true → IsCreated c → IsCreated d)

theorem leavesRecord_of_sparesStore (hp : s.perform w action = (answer, w'))
    (hspares : action.SparesStore) : LeavesRecord l id launch kill w.store w'.store := by
  intro c hc hrecord
  have hstore : w'.store = w.store := by
    rw [← store_perform s w hspares, hp]
  exact ⟨c, by rw [hstore]; exact hc, hrecord, fun _ h => h⟩

theorem leavesRecord_of_isFinalizing (hp : s.perform w action = (answer, w'))
    (hfinalizing : IsFinalizing action) (hclosed : kill.isOpen = false) :
    LeavesRecord l id launch kill w.store w'.store := by
  intro c hc hrecord
  obtain ⟨d, hd, hrecord'⟩ := record_of_finalizing (s := s) hfinalizing hc hrecord
  rw [hp] at hd
  refine ⟨d, hd, hrecord', fun hopen => ?_⟩
  rw [hclosed] at hopen
  cases hopen

theorem leavesRecord_of_request {answer : Except StoreError (Option StatusChange)}
    (hp : s.perform w (.append id (Tracker.request user)) = (answer, w')) :
    LeavesRecord l id launch kill w.store w'.store := by
  intro c hc hrecord
  obtain ⟨d, hd, hrecord', hcreated⟩ :=
    record_of_append (s := s) hc hrecord id (Tracker.request user)
  rw [hp] at hd
  exact ⟨d, hd, hrecord', fun _ => hcreated fun _ => rfl⟩

theorem isCallFree_of_isFinalizing (h : IsFinalizing action) : action.IsCallFree := by
  cases action <;> trivial

/-- In service mode the engine knows a record by the identifier that was noted last. -/
theorem IsRecord.eq_noted {external : String} (h : IsRecord l launch c) (hswarm : l.swarm = true)
    (hplain : ∀ known, launch = .started known → l.swarm = false)
    (hexternal : c.externalId? = some external) : launch = .noted external := by
  have hnoted := h.externalId?.symm.trans hexternal
  cases launch with
  | noted known =>
    cases hnoted
    rfl
  | started known =>
    rw [hplain known rfl] at hswarm
    cases hswarm
  | ready => cases hnoted
  | added => cases hnoted
  | created known => cases hnoted

end Changes

/-- A step of the kill after it looked, which leaves the stage as it is and starts and stops
nothing. -/
theorem Agree.kill_idle (h : Agree l id launch kill w.store log) (hready : launch ≠ .ready)
    (hfound : (seen? log).isSome = true ∨ kill = .plain)
    (hrecord : LeavesRecord l id launch kill w.store w'.store)
    (hidle : kill ≠ .plain → ∀ up, Deed.apply up ⟨action, answer⟩ = up) :
    Agree l id launch kill w'.store (log ++ [(.kill, ⟨action, answer⟩)]) := by
  refine ⟨fun h' => absurd h' hready, fun _ => ?_, h.plain, ?_, fun hkill => ?_⟩
  · obtain ⟨c, hc, hc', hopen⟩ := h.record hready
    obtain ⟨d, hd, hd', hkept⟩ := hrecord c hc hc'
    exact ⟨d, hd, hd', fun hk => hkept hk (hopen hk)⟩
  · rcases hfound with hfound | rfl
    · obtain ⟨c, hc⟩ := Option.isSome_iff_exists.1 hfound
      have hfits := h.fits
      rw [hc] at hfits
      rw [seen?_kill, hc]
      exact hfits
    · exact hready
  · rw [running_concat, hidle hkill]
    exact h.running hkill

/-- What the kill finds, where it has not looked before. -/
theorem Agree.kill_look (h : Agree l id launch .waiting w.store log)
    (hp : s.perform w (.get id) = (some c, w')) (hremoved : kill'.isRemoved = false)
    (hfits : launch ≠ .ready → IsRecord l launch c → Fits l launch (some c) kill') :
    Agree l id launch kill' w'.store (log ++ [(.kill, ⟨.get id, some c⟩)]) := by
  obtain ⟨hget, rfl⟩ := Prod.mk.inj hp
  obtain ⟨hready, hrecord, hcreated⟩ := h.record_of_get? hget
  refine ⟨h.fresh, fun _ => ⟨c, hget, hrecord, fun _ => hcreated rfl⟩, h.plain, ?_, fun _ => ?_⟩
  · rw [seen?_kill, show seen? log = none from h.fits]
    exact hfits hready hrecord
  · rw [running_concat, hremoved]
    exact h.running nofun

/-- Every step of the kill keeps what holds. -/
theorem Agree.kill_step (h : Agree l id launch kill w.store log)
    (hp : s.perform w action = (answer, w')) (hleads : KillLeads l id user kill action answer kill') :
    Agree l id launch kill' w'.store (log ++ [(.kill, ⟨action, answer⟩)]) := by
  cases hleads with
  | miss =>
    -- nothing was found, and the kill ends without a trace
    obtain ⟨-, rfl⟩ := Prod.mk.inj hp
    refine ⟨h.fresh, fun hready => ?_, h.plain, trivial, fun _ => ?_⟩
    · obtain ⟨c, hc, hrecord, -⟩ := h.record hready
      exact ⟨c, hc, hrecord, nofun⟩
    · rw [running_concat]
      exact h.running nofun
  | overlook nowhere =>
    exact h.kill_look hp rfl fun hready _ => ⟨hready, _, rfl, nowhere⟩
  | findPlain plain there => exact h.kill_look hp rfl fun hready _ => hready
  | findService swarm there =>
    exact h.kill_look hp rfl fun _ hrecord =>
      ⟨swarm, hrecord.eq_noted swarm h.plain there, _, rfl, there⟩
  | finalize hfinalizing =>
    obtain ⟨hready, c, hc, -⟩ := h.fits
    exact h.kill_idle hready (.inl (by rw [hc]; rfl))
      (leavesRecord_of_isFinalizing hp hfinalizing rfl)
      fun _ => Deed.apply_of_isCallFree (isCallFree_of_isFinalizing hfinalizing) answer
  | kill | publish | look =>
    exact h.kill_idle h.fits (.inr rfl) (leavesRecord_of_sparesStore hp trivial)
      fun hne => absurd rfl hne
  | request =>
    exact h.kill_idle h.fits (.inr rfl) (leavesRecord_of_request hp) fun hne => absurd rfl hne
  | ping | keep =>
    obtain ⟨-, rfl, c, hc, -⟩ := h.fits
    exact h.kill_idle nofun (.inl (by rw [hc]; rfl)) (leavesRecord_of_sparesStore hp trivial)
      fun _ _ => rfl
  | finalizeService hfinalizing =>
    obtain ⟨-, rfl, c, hc, -⟩ := h.fits
    exact h.kill_idle nofun (.inl (by rw [hc]; rfl))
      (leavesRecord_of_isFinalizing hp hfinalizing rfl)
      fun _ => Deed.apply_of_isCallFree (isCallFree_of_isFinalizing hfinalizing) answer
  | @remove external u =>
    -- of what the launch brought up there is only the service, and it is gone
    obtain ⟨hswarm, rfl, c, hc, hexternal⟩ := h.fits
    have hleaves : LeavesRecord l id (.noted external) (.service external) w.store w'.store :=
      leavesRecord_of_sparesStore hp trivial
    obtain ⟨d, hd, hrecord, -⟩ := h.record nofun
    obtain ⟨d, hd, hrecord, -⟩ := hleaves d hd hrecord
    refine ⟨nofun, fun _ => ⟨d, hd, hrecord, nofun⟩, nofun, ?_, fun _ => ?_⟩
    · rw [seen?_kill, hc]
      exact ⟨hswarm, rfl, c, rfl, hexternal⟩
    · have hrunning : Overlap.running log = [external] := by
        rw [h.running nofun]
        simp [KillStage.isRemoved, LaunchStage.up, hswarm]
      rw [running_concat, hrunning]
      simp [Deed.apply, KillStage.isRemoved]

/-! ## Runs -/

/-- What holds of a launch and a kill in progress: each is at a stage of its protocol, and the
stages agree. -/
def Stands (l : Launcher) (id : Int) (user : String) (p : Overlap σ) : Prop :=
  ∃ launch kill, (launchProtocol l id).Follows (fun stage _ => LaunchEnds l stage) p.launch launch ∧
    (killProtocol l id user).Follows KillEnds p.kill kill ∧
    Agree l id launch kill p.world.store p.log

variable {p q : Overlap σ} {moves : List (Move σ)}

theorem stands_start (hfresh : w.store.get? w.store.nextId = none) (l : Launcher) (user : String)
    (r : Resolved) (killer : String) :
    Stands l w.store.nextId killer (start l user r killer w) :=
  ⟨.ready, .waiting, follows_launch l w.store.nextId user r, follows_kill l w.store.nextId killer,
    fun _ => ⟨rfl, hfresh⟩, fun h => absurd rfl h, nofun, rfl, fun _ => rfl⟩

/-- Every move keeps what holds. -/
theorem Stands.move (hs : s.Succeeds) {m : Move σ} (h : Stands l id user p)
    (hm : p.move? s m = some q) : Stands l id user q := by
  obtain ⟨launch, kill, hlaunch, hkill, hagree⟩ := h
  cases m with
  | elapse outside =>
    cases hm
    exact ⟨launch, kill, hlaunch, hkill, hagree⟩
  | act party =>
    cases party with
    | launch =>
      obtain ⟨⟨deed, t, w'⟩, hact, rfl⟩ := Option.map_eq_some_iff.1 hm
      obtain ⟨action, next, answer, ht, hp, rfl, rfl⟩ := act?_eq_some hact
      rw [ht] at hlaunch
      obtain ⟨launch', hleads, hnext⟩ := hlaunch.step (launchExpects hs hagree hp)
      exact ⟨launch', kill, hnext, hkill, hagree.launch_step hs hp hleads⟩
    | kill =>
      obtain ⟨⟨deed, t, w'⟩, hact, rfl⟩ := Option.map_eq_some_iff.1 hm
      obtain ⟨action, next, answer, ht, hp, rfl, rfl⟩ := act?_eq_some hact
      rw [ht] at hkill
      obtain ⟨kill', hleads, hnext⟩ := hkill.step (killExpects hagree hp)
      exact ⟨launch, kill', hlaunch, hnext, hagree.kill_step hp hleads⟩

theorem Stands.follow (hs : s.Succeeds) (h : Stands l id user p)
    (hrun : p.follow? s moves = some q) : Stands l id user q := by
  induction moves generalizing p with
  | nil =>
    obtain rfl : p = q := Option.some.inj hrun
    exact h
  | cons m rest ih =>
    obtain ⟨p', hm, hrest⟩ := Option.bind_eq_some_iff.1 hrun
    exact ih (h.move hs hm) hrest

/-- A kill that was answered with a terminal status came too early and stopped nothing, or it found
an identifier, and nothing runs. -/
theorem Stands.of_terminal (h : Stands l id user p) {status : Status}
    (hkill : p.kill = .done (.ok status)) (hterminal : status.isTerminal = true) :
    (¬ p.SawId ∧ ∀ result, p.launch = .done result → running p.log ≠ []) ∨
      p.SawId ∧ running p.log = [] := by
  obtain ⟨launch, kill, hlaunch, hfollows, hagree⟩ := h
  rw [hkill] at hfollows
  have hfits := hagree.fits
  -- of what a kill can come to, only two answer with a terminal status
  cases kill with
  | waiting => exact False.elim hfollows
  | missed =>
    obtain ⟨e, he⟩ := hfollows
    cases he
  | service external =>
    obtain ⟨e, he⟩ := hfollows
    cases he
  | plain =>
    rw [hfollows status rfl] at hterminal
    cases hterminal
  | removed external =>
    obtain ⟨-, -, c, hseen, hexternal⟩ := hfits
    exact .inr ⟨⟨c, external, hseen, hexternal⟩, hagree.running nofun⟩
  | unseen =>
    obtain ⟨hready, c, hseen, hnowhere⟩ := hfits
    refine .inl ⟨?_, fun result hdone => ?_⟩
    · rintro ⟨d, external, hd, hexternal⟩
      obtain rfl : c = d := Option.some.inj (hseen.symm.trans hd)
      rw [hnowhere] at hexternal
      cases hexternal
    · rw [hdone] at hlaunch
      rw [hagree.running nofun]
      rcases hlaunch with hlaunch | ⟨external, rfl⟩
      · exact absurd hlaunch hready
      · cases hswarm : l.swarm <;> simp [KillStage.isRemoved, LaunchStage.up, hswarm]

/-- A kill answered with a terminal status leaves nothing running if it found the record with an
identifier of the engine; and once the launch is over, only then. -/
theorem killHolds_iff (hs : s.Succeeds) (hfresh : w.store.get? w.store.nextId = none)
    {r : Resolved} {killer : String}
    (hrun : (start l user r killer w).follow? s moves = some p) :
    (p.SawId → p.KillHolds) ∧
      ∀ result, p.launch = .done result →
        (p.KillHolds ↔ ∀ status, p.kill = .done (.ok status) → status.isTerminal = true →
          p.SawId) := by
  have hstands := (stands_start hfresh l user r killer).follow hs hrun
  have hholds : (∀ status, p.kill = .done (.ok status) → status.isTerminal = true → p.SawId) →
      p.KillHolds := by
    intro hsaw status hkill hterminal
    rcases hstands.of_terminal hkill hterminal with ⟨hnot, -⟩ | ⟨-, hrunning⟩
    · exact absurd (hsaw status hkill hterminal) hnot
    · exact hrunning
  refine ⟨fun hsaw => hholds fun _ _ _ => hsaw, fun result hdone => ⟨?_, hholds⟩⟩
  intro hholds status hkill hterminal
  rcases hstands.of_terminal hkill hterminal with ⟨-, hrunning⟩ | ⟨hsaw, -⟩
  · exact absurd (hholds status hkill hterminal) (hrunning result hdone)
  · exact hsaw

/-! ## A kill that comes too early -/

section Early

/-- Surroundings whose engine does what it is asked. -/
def obliging : Surroundings Unit :=
  { Surroundings.still with
    engine := fun
      | .ping, _ | .startContainer _, _ | .killContainer _, _ | .removeService _, _ => (.ok (), ())
      | .createContainer _, _ => (.ok "c1", ())
      | .createService _, _ => (.ok "s1", ())
      | .serviceTasks _, _ | .listImages, _ | .events _ _, _ => (.ok [], ())
      | .containerLogs _, _ | .serviceLogs _, _ => (.ok ⟨"", ""⟩, ()) }

theorem obliging_succeeds : obliging.Succeeds where
  saves := Surroundings.still_saves
  engine call _ := by
    cases call <;> exact ⟨_, rfl⟩

/-- A command without mounts. -/
def task : Resolved :=
  { commandId := 1, commandName := "sort", image := "i", commandLine := "l" }

/-- A world without records. -/
def vacant : World Unit where
  store := .empty
  outside := ()

/-- Some actions of a party. -/
def turns (party : Party) (count : Nat) : List (Move Unit) :=
  List.replicate count (.act party)

/-- The launch of a container, which is killed once the engine created it and before this is noted
in the record. -/
def early : List (Move Unit) :=
  turns .launch 4 ++ turns .kill 11 ++ turns .launch 3

/-- How an overlap ended: the record in the store, the answer to the kill, and what runs. -/
def outcome (p : Overlap Unit) : Option Status × Option Status × List String :=
  ((p.world.store.get? 1).map Container.status,
    match p.kill with
    | .done (.ok status) => some status
    | _ => none,
    running p.log)

theorem kill_of_outcome {p : Overlap Unit} {status : Status}
    (h : (outcome p).2.1 = some status) : p.kill = .done (.ok status) := by
  unfold outcome at h
  split at h
  · next answer hanswer =>
    cases h
    exact hanswer
  · cases h

/-- The launch starts the container whose record says that it was killed. -/
theorem not_killHolds_early :
    ∃ p, (start Launcher.plain "ann" task "bob" vacant).follow? obliging early = some p ∧
      (p.world.store.get? 1).map Container.status = some .killed ∧ ¬ p.KillHolds := by
  have houtcome : ((start Launcher.plain "ann" task "bob" vacant).follow? obliging early).map
      outcome = some (some .killed, some .killed, ["c1"]) := by rfl
  obtain ⟨p, hrun, hp⟩ := Option.map_eq_some_iff.1 houtcome
  obtain ⟨hstatus, hkill, hrunning⟩ := by simpa only [Prod.ext_iff] using hp
  refine ⟨p, hrun, hstatus, fun hholds => ?_⟩
  have hstopped := hholds .killed (kill_of_outcome hkill) rfl
  rw [show running p.log = ["c1"] from hrunning] at hstopped
  cases hstopped

/-- The launch of a service, which is killed once the record has its identifier. -/
def late : List (Move Unit) :=
  turns .launch 5 ++ turns .kill 13

/-- Such a service is removed. -/
theorem killHolds_late :
    obliging.Succeeds ∧ vacant.store.get? vacant.store.nextId = none ∧
      ∃ p, (start { siteUrl := "https://site", swarm := true } "ann" task "bob" vacant).follow?
          obliging late = some p ∧ p.SawId ∧ p.kill = .done (.ok .killed) ∧ running p.log = [] := by
  have houtcome : ((start { siteUrl := "https://site", swarm := true } "ann" task "bob"
      vacant).follow? obliging late).map
      (fun p => (outcome p, (seen? p.log).bind Container.externalId?)) =
        some ((some .killed, some .killed, []), some "s1") := by rfl
  obtain ⟨p, hrun, hp⟩ := Option.map_eq_some_iff.1 houtcome
  obtain ⟨hends, hseen⟩ := Prod.mk.inj hp
  obtain ⟨c, hc, hexternal⟩ := Option.bind_eq_some_iff.1 hseen
  have hsaw : p.SawId := ⟨c, "s1", hc, hexternal⟩
  have hkill : p.kill = .done (.ok .killed) := kill_of_outcome (by rw [hends])
  have hholds : p.KillHolds := (killHolds_iff obliging_succeeds rfl hrun).1 hsaw
  exact ⟨obliging_succeeds, rfl, p, hrun, hsaw, hkill, hholds .killed hkill rfl⟩

end Early

end Mooring.Overlap
