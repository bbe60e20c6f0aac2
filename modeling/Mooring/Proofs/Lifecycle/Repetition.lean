import Mooring.Proofs.Lifecycle.Account
import Mooring.Proofs.Lifecycle.Finalizing
import Mooring.Proofs.Lifecycle.Independence
import Mooring.Proofs.Lifecycle.Repertoire

set_option autoImplicit false

/-!
# Events that come again

Poller and listener may both report an event, and report it more than once. An event that was
processed is `Noted`, and stays so whatever is processed after it; processing it again changes
nothing and calls nobody (`Tracker.process_of_noted`). So copies of events make no difference,
wherever they come among other events (`Tracker.deliver_repeats`).
-/

namespace Mooring

variable {σ : Type}

/-! ## Homes -/

/-- Whether some identifiers of the engine lead to the records given for them, and no other record
bears them. -/
structure Store.IsHome (home : String → Option Int) (store : Store) : Prop where
  leads : ∀ name id, home name = some id → store.find? name = some id
  known : ∀ name id, home name = some id → (store.get? id).isSome = true
  bears : ∀ name id other c, home name = some id → store.get? other = some c →
    name ∈ c.externalIds → other = id

/-- Whether an event is indexed to its container, and brings no identifier of another one. -/
def EngineEvent.IsIndexed (home : String → Option Int) : EngineEvent → Prop
  | .container e => (home e.id).isSome = true
  | .task id t => ∀ name other, t.containerId = some name → home name = some other → other = id
  | .missing _ => True

/-- A store after some actions: no record came or went, histories are longer at most, and
identifiers of the engine are at home. -/
structure Store.Steady (home : String → Option Int) (store store' : Store) : Prop where
  home : store'.IsHome home
  grows : store.Grows store'
  none : ∀ id, store.get? id = none → store'.get? id = none

namespace Store

variable {home : String → Option Int} {store store' store'' : Store} {c d : Container} {id : Int}

theorem Steady.refl (h : store.IsHome home) : store.Steady home store :=
  ⟨h, .refl store, fun _ h => h⟩

theorem Steady.trans (h : store.Steady home store') (h' : store'.Steady home store'') :
    store.Steady home store'' :=
  ⟨h'.home, h.grows.trans h'.grows, fun id hid => h'.none id (h.none id hid)⟩

/-- A record that is put in its place is no stranger to its identifiers. -/
theorem IsHome.put (h : store.IsHome home) (hc : store.get? id = some c)
    (hid : d.databaseId = c.databaseId)
    (hnames : ∀ name ∈ d.externalIds, name ∈ c.externalIds ∨
      ∀ other, home name = some other → other = id) :
    (store.put d).IsHome home ∧ ((store.indexed d).put d).IsHome home := by
  have hdid : d.databaseId = id := hid.trans (databaseId_of_get? hc)
  -- whatever the new record bears is at home in it, as in the old one or as it is given
  have hmine : ∀ name other, home name = some other → name ∈ d.externalIds → other = id := by
    intro name other hhome hname
    rcases hnames name hname with hold | hnew
    · exact (h.bears name other id c hhome hc hold).symm
    · exact hnew other hhome
  have hknown : ∀ name other, home name = some other → ((store.put d).get? other).isSome = true := by
    intro name other hhome
    rw [get?_put]
    split
    · rfl
    · exact h.known name other hhome
  have hbears : ∀ name other third e, home name = some other →
      (store.put d).get? third = some e → name ∈ e.externalIds → third = other := by
    intro name other third e hhome he hname
    rw [get?_put] at he
    split at he
    · next hthird =>
      cases he
      rw [← hthird, hdid, hmine name other hhome hname]
    · exact h.bears name other third e hhome he hname
  refine ⟨⟨h.leads, hknown, hbears⟩, ⟨fun name other hhome => ?_, hknown, hbears⟩⟩
  show (store.indexed d).find? name = some other
  rw [find?_indexed]
  split
  · next hname => rw [hdid, hmine name other hhome hname]
  · exact h.leads name other hhome

theorem get?_put_none (hc : store.get? id = some c) (hid : d.databaseId = c.databaseId)
    (other : Int) (h : store.get? other = none) : (store.put d).get? other = none := by
  rw [get?_put, if_neg]
  · exact h
  · rintro rfl
    rw [hid, databaseId_of_get? hc, hc] at h
    cases h

end Store

/-- Whether an action brings no identifier of the engine to a record but its own. -/
def Action.IsHomely (home : String → Option Int) : Action → Prop
  | .update id change => Store.IsGentle change ∧ ∀ c, ∀ name ∈ (change c).externalIds,
      name ∈ c.externalIds ∨ ∀ other, home name = some other → other = id
  | .append _ _ | .find _ | .get _ | .withStatus _ | .publish _ | .lock _ | .unlock _
  | .finalizer _ => True
  | _ => False

section Actions

variable {home : String → Option Int} {w : World σ}

theorem Store.Steady.append (s : Surroundings σ) (h : w.store.IsHome home) (id : Int)
    (e : HistoryEntry) :
    w.store.Steady home (w.store.append s.shelf id e w.outside).2.1 := by
  have hgrows : w.store.Grows (w.store.append s.shelf id e w.outside).2.1 :=
    Store.grows_append id e
  rcases Store.store_append_cases s.shelf id w.store w.outside e with hr | ⟨c, d, hc, hd, hr⟩
  · rw [hr]
    exact .refl h
  · have hid := Container.databaseId_of_append? hd
    have hnames : ∀ name ∈ d.externalIds, name ∈ c.externalIds ∨
        ∀ other, home name = some other → other = id := by
      rw [Container.externalIds_of_append? hd]
      exact fun _ hname => .inl hname
    rw [hr] at hgrows ⊢
    exact ⟨(h.put hc hid hnames).1, hgrows, Store.get?_put_none hc hid⟩

theorem Store.Steady.update (s : Surroundings σ) (h : w.store.IsHome home) (id : Int)
    {change : Container → Container} (hgentle : Store.IsGentle change)
    (hnames : ∀ c, ∀ name ∈ (change c).externalIds, name ∈ c.externalIds ∨
      ∀ other, home name = some other → other = id) :
    w.store.Steady home (w.store.update s.shelf id change w.outside).2.1 := by
  have hgrows : w.store.Grows (w.store.update s.shelf id change w.outside).2.1 :=
    Store.grows_update hgentle id
  rcases Store.store_update_cases s.shelf id w.store w.outside change with hr | ⟨c, hc, hr⟩
  · rw [hr]
    exact .refl h
  · have hid : (change c).databaseId = c.databaseId := (hgentle c).1
    rw [hr] at hgrows ⊢
    exact ⟨(h.put hc hid (hnames c)).2, hgrows, Store.get?_put_none hc hid⟩

theorem steady_perform (s : Surroundings σ) (h : w.store.IsHome home) {action : Action}
    (ha : action.IsHomely home) :
    w.store.Steady home (s.perform w action).2.store := by
  cases action with
  | append id entry => exact .append s h id _
  | update id change =>
    rw [Surroundings.snd_perform_update]
    exact .update s h id ha.1 ha.2
  | insert | openServices | engine | clock | loadServer | saveCheckTime | send | issueToken
  | makeBuildDirectory => exact ha.elim
  | _ => exact .refl h

theorem steady_run (s : Surroundings σ) {α : Type} {t : Routine α}
    (h : w.store.IsHome home) (ht : t.All (Action.IsHomely home)) :
    w.store.Steady home (t.run s w).2.store := by
  induction t generalizing w with
  | done a => exact .refl h
  | step action next ih =>
    have hfirst := steady_perform s h ht.1
    exact hfirst.trans (ih _ hfirst.home (ht.2 _))

theorem homely_of_tracking {tasks : Int → ServiceTask → Prop}
    (htasks : ∀ id t, tasks id t → (EngineEvent.task id t).IsIndexed home) {action : Action}
    (h : action.IsTracking tasks) : action.IsHomely home := by
  cases action with
  | update id change =>
    rcases h with ⟨t, ht, rfl⟩ | ⟨paths, rfl⟩
    · refine ⟨fun _ => ⟨rfl, rfl⟩, fun c name hname => ?_⟩
      rcases Tracker.mem_externalIds_withTask hname with hold | hnew
      · exact .inl hold
      · exact .inr fun other hother => htasks id t ht name other hnew hother
    · exact ⟨fun _ => ⟨rfl, rfl⟩, fun _ _ hname => .inl hname⟩
  | insert | openServices | engine | clock | loadServer | saveCheckTime | send | issueToken
  | makeBuildDirectory => exact h.elim
  | _ => trivial

end Actions

/-! ## Events that are noted -/

/-- Whether an event may come again: the report that a service is gone is none that tells when. -/
def EngineEvent.IsRepeatable : EngineEvent → Prop
  | .container _ => True
  | .task _ t => t.statusTime.isSome = true
  | .missing _ => False

/-- Whether an event is in the history of its record, if it has one. -/
def EngineEvent.IsNoted (store : Store) : EngineEvent → Prop
  | .container e => ∃ id, store.find? e.id = some id ∧ store.Notes id e
  | .task id t => ∀ c, store.get? id = some c → ∀ now, c.records (.ofTask now t) = true
  | .missing _ => False

section Noted

variable {home : String → Option Int} {store store' : Store} {e : EngineEvent}

/-- What is noted stays noted. -/
theorem EngineEvent.IsNoted.steady (h : e.IsNoted store) (hindexed : e.IsIndexed home)
    (hhome : store.IsHome home) (hsteady : store.Steady home store') : e.IsNoted store' := by
  cases e with
  | container e =>
    obtain ⟨id, hfind, hnotes⟩ := h
    obtain ⟨other, hother⟩ := Option.isSome_iff_exists.1 hindexed
    -- the identifier still leads where it did
    have hsame : other = id := by
      have hleads := hhome.leads e.id other hother
      rw [hfind] at hleads
      exact (Option.some.inj hleads).symm
    exact ⟨id, hsame ▸ hsteady.home.leads e.id other hother, hnotes.grows hsteady.grows⟩
  | task id t =>
    intro d hd now
    cases hc : store.get? id with
    | none =>
      rw [hsteady.none id hc] at hd
      cases hd
    | some c =>
      obtain ⟨d', hd', hrecords⟩ := hsteady.grows.records hc (h c hc now)
      obtain rfl : d' = d := Option.some.inj (hd'.symm.trans hd)
      exact hrecords
  | missing id => exact h.elim

end Noted

namespace Tracker

variable {s : Surroundings σ} {w w' : World σ} {e : EngineEvent} {id : Int} {c d : Container}
  {home : String → Option Int}

theorem calls_bind {α β : Type} (s : Surroundings σ) (t : Routine α) (f : α → Routine β)
    (w : World σ) :
    (t.bind f).calls s w = t.calls s w ++ (f (t.run s w).1).calls s (t.run s w).2 := by
  induction t generalizing w with
  | done a => rfl
  | step action next ih =>
    show action.finalized?.toList ++ _ = (action.finalized?.toList ++ _) ++ _
    rw [List.append_assoc]
    exact congrArg _ (ih _ _)

/-- A routine that leaves the files alone does not call the finalizer. -/
theorem calls_of_gentle {α : Type} (s : Surroundings σ) {t : Routine α}
    (h : t.All Action.IsGentle) (w : World σ) : t.calls s w = [] := by
  induction t generalizing w with
  | done a => rfl
  | step action next ih =>
    have hnone : action.finalized? = none := by
      cases action with
      | finalizer c => exact h.1.elim
      | _ => rfl
    show action.finalized?.toList ++ _ = []
    rw [hnone, ih _ (h.2 _)]
    rfl

/-- Without a record to finalize, processing an event is handling it. -/
theorem calls_process {r : Except Error (Option Int)} (hr : (handle e).run.run s w = (r, w'))
    (hidle : ∀ id, r ≠ .ok (some id)) :
    ((process e).run.run s w).2 = w' ∧ (process e).run.calls s w = [] := by
  constructor
  · rw [run_process, hr]
    rcases r with err | _ | id
    · rfl
    · rfl
    · exact absurd rfl (hidle id)
  · show (Routine.bind (handle e).run _).calls s w = []
    rw [calls_bind, calls_of_gentle s (all_handle e), hr]
    rcases r with err | _ | id
    · rfl
    · rfl
    · exact absurd rfl (hidle id)

theorem run_record_of_none (hc : w.store.get? id = none) (entry : Instant → HistoryEntry) :
    (record id entry).run.run s w = (.error (.store (.notFound id)), w) :=
  run_record_failed (Store.append_of_none s.shelf w.outside hc _)

theorem run_handle_of_records (hid : e.target? w.store = some id) (hc : w.store.get? id = some c)
    (hopen : e.isIgnored c = false) (hrecords : c.records (e.entry (s.now w.outside)) = true) :
    (handle e).run.run s w = (.ok none, w) := by
  have hrefused : Store.append s.shelf id (e.entry (s.now w.outside)) w.store w.outside =
      (.ok none, w.store, w.outside) := by
    unfold Store.append
    simp only [hc, (Container.append?_eq_none_iff c _).2 hrecords]
  rw [run_handle s hid hc hopen, run_bindJob, run_record_refused hrefused]
  cases e <;> rfl

/-- Processing a noted event changes nothing and calls nobody. -/
theorem process_of_noted (s : Surroundings σ) (h : e.IsNoted w.store) :
    ((process e).run.run s w).2 = w ∧ (process e).run.calls s w = [] := by
  cases e with
  | container e =>
    obtain ⟨id, hfind, c, hc, hrecords⟩ := h
    exact calls_process (run_handle_of_records hfind hc rfl (hrecords _)) nofun
  | task id t =>
    cases hc : w.store.get? id with
    | none =>
      refine calls_process (r := .error (.store (.notFound id))) ?_ nofun
      show (record id _ >>= _ : Job _).run.run s w = _
      rw [run_bindJob, run_record_of_none hc]
    | some c => exact calls_process (run_handle_of_records rfl hc rfl (h c hc _)) nofun
  | missing id => exact h.elim

theorem homely_tracking (he : e.IsIndexed home) {action : Action}
    (h : action.IsTracking fun id t => e = .task id t) : action.IsHomely home := by
  refine homely_of_tracking ?_ h
  rintro id t rfl
  exact he

theorem steady_process (s : Surroundings σ) (h : w.store.IsHome home) (he : e.IsIndexed home) :
    w.store.Steady home ((process e).run.run s w).2.store :=
  steady_run s h ((tracking_process fun _ _ h => h).mono fun _ => homely_tracking he)

theorem homely_afterEntry {store : Store} (he : e.IsIndexed home)
    (hid : e.target? store = some id) (change : StatusChange) :
    (afterEntry id e (some change)).run.All (Action.IsHomely home) :=
  all_afterEntry hid (fun t ht => homely_tracking he (.inl ⟨t, ht, rfl⟩)) (fun _ => trivial) _

/-- What is left of the processing of an event once its entry is recorded. -/
theorem steady_afterRecord {store : Store} (s : Surroundings σ) (he : e.IsIndexed home)
    (hid : e.target? store = some id) {change : StatusChange}
    (hrun : (handle e).run.run s w = (afterEntry id e (some change)).run.run s w')
    (h : w'.store.IsHome home) : w'.store.Steady home ((process e).run.run s w).2.store := by
  have hafter := steady_run s h (homely_afterEntry he hid change)
  rw [run_process, hrun]
  rcases hr : (afterEntry id e (some change)).run.run s w' with ⟨err | _ | found, w''⟩ <;>
    rw [hr] at hafter
  · exact hafter
  · exact hafter
  · exact hafter.trans (steady_run s hafter.home ((tracking_finalize found).mono fun _ =>
      homely_tracking he))

/-- An event that may come again is noted once it was processed. -/
theorem noted_process (hs : s.Saves) (h : w.store.IsHome home) (he : e.IsIndexed home)
    (hrepeatable : e.IsRepeatable) (hid : e.target? w.store = some id)
    (hc : w.store.get? id = some c) : e.IsNoted ((process e).run.run s w).2.store := by
  have hopen : e.isIgnored c = false := by
    cases e with
    | missing other => exact hrepeatable.elim
    | _ => rfl
  rcases run_record_of_saves hs hc e.entry with ⟨hd, hr⟩ | ⟨d, w', hd, hr, hbecomes⟩
  · -- it was noted before
    have hrecords := (Container.append?_eq_none_iff c _).1 hd
    have hnoted : e.IsNoted w.store := by
      cases e with
      | container e => exact ⟨id, hid, c, hc, fun now => hrecords⟩
      | task other t =>
        obtain rfl : other = id := Option.some.inj hid
        intro c' hc' now
        obtain rfl : c = c' := Option.some.inj (hc.symm.trans hc')
        exact hrecords
      | missing other => exact hrepeatable.elim
    exact hnoted.steady he h (steady_process s h he)
  · -- its entry is new, and what follows is steady from there
    have hhome : w.store.Steady home w'.store := by
      have htracking : (record id e.entry).run.All
          (Action.IsTracking fun id t => e = .task id t) :=
        tracking_record id (marksWaiting_entry e)
      have hsteady := steady_run s h (htracking.mono fun _ => homely_tracking he)
      rw [hr] at hsteady
      exact hsteady
    have hnoted : e.IsNoted w'.store := by
      cases e with
      | container e =>
        exact ⟨id, hbecomes.leads e.id hid, d, hbecomes.record, fun later =>
          Container.records_event_of_append? hd later⟩
      | task other t =>
        obtain rfl : other = id := Option.some.inj hid
        intro d' hd' later
        obtain rfl : d = d' := Option.some.inj (hbecomes.record.symm.trans hd')
        exact records_of_append? hd rfl hrepeatable later
      | missing other => exact hrepeatable.elim
    have hrun : (handle e).run.run s w =
        (afterEntry id e (some ⟨c.status, d.status⟩)).run.run s w' := by
      rw [run_handle s hid hc hopen, run_bindJob, hr]
    exact hnoted.steady he hhome.home (steady_afterRecord s he hid hrun hhome.home)

/-! ## Copies among other events -/

end Tracker

/-- Whether some deliveries are others with copies of events among them, each after its event or
after one of those given. -/
inductive Repeats : List EngineEvent → List (Delivery σ) → List (Delivery σ) → Prop
  | nil (seen : List EngineEvent) : Repeats seen [] []
  | next {seen : List EngineEvent} {d d' : Delivery σ} {base more : List (Delivery σ)}
      (same : d.event = d'.event) (rest : Repeats (d.event :: seen) base more) :
      Repeats seen (d :: base) (d' :: more)
  | again {seen : List EngineEvent} {d : Delivery σ} {base more : List (Delivery σ)}
      (copied : d.event ∈ seen) (repeatable : d.event.IsRepeatable)
      (rest : Repeats seen base more) : Repeats seen base (d :: more)

namespace Tracker

variable {s : Surroundings σ} {w w' : World σ} {R : σ → σ → Prop} {home : String → Option Int}
  {base more : List (Delivery σ)} {seen : List EngineEvent}

/-- The record of an event that is indexed, or of a task, is noted once the event was processed. -/
theorem noted_process_of_indexed {e : EngineEvent} (hs : s.Saves) (h : w.store.IsHome home)
    (he : e.IsIndexed home) (hrepeatable : e.IsRepeatable) :
    e.IsNoted ((process e).run.run s w).2.store := by
  cases e with
  | container e =>
    obtain ⟨id, hid⟩ := Option.isSome_iff_exists.1 he
    obtain ⟨c, hc⟩ := Option.isSome_iff_exists.1 (h.known e.id id hid)
    exact noted_process hs h he hrepeatable (h.leads e.id id hid) hc
  | task id t =>
    cases hc : w.store.get? id with
    | some c => exact noted_process hs h he hrepeatable rfl hc
    | none =>
      intro c hget
      rw [(steady_process s h he).none id hc] at hget
      cases hget
  | missing id => exact hrepeatable.elim

theorem alike_repeats (hs : s.Blind R) (hrepeats : Repeats seen base more)
    (hindexed : ∀ e ∈ seen, e.IsIndexed home) (hbase : ∀ d ∈ base, d.event.IsIndexed home)
    (hhome : w'.store.IsHome home)
    (hnoted : ∀ e ∈ seen, e.IsRepeatable → e.IsNoted w'.store) (h : w.Alike .all R w') :
    (deliver s base w).Alike .all R (deliver s more w') ∧
      (deliveryCalls s base w).map Container.timeless =
        (deliveryCalls s more w').map Container.timeless := by
  induction hrepeats generalizing w w' with
  | nil seen => exact ⟨h, rfl⟩
  | @next seen d d' base more same rest ih =>
    obtain ⟨e, now⟩ := d
    obtain ⟨e', now'⟩ := d'
    obtain rfl : e = e' := same
    obtain ⟨he, hrest⟩ := List.forall_mem_cons.1 hbase
    have hsaves : (s.timed now').Saves := hs.saves
    have hsteady := steady_process (s.timed now') hhome he
    obtain ⟨-, halike, hcalls⟩ := (same_process e.in_all).run hs now now' h
    -- the event is noted now, and those that were noted still are
    have hnoted' : ∀ e' ∈ e :: seen, e'.IsRepeatable →
        e'.IsNoted ((process e).run.run (s.timed now') w').2.store :=
      List.forall_mem_cons.2 ⟨noted_process_of_indexed hsaves hhome he, fun e' he' hrepeatable =>
        (hnoted e' he' hrepeatable).steady (hindexed e' he') hhome hsteady⟩
    obtain ⟨hworlds, hlater⟩ := ih (List.forall_mem_cons.2 ⟨he, hindexed⟩) hrest hsteady.home
      hnoted' halike
    refine ⟨hworlds, ?_⟩
    unfold deliveryCalls
    rw [List.map_append, List.map_append, hcalls, hlater]
  | @again seen d base more copied repeatable rest ih =>
    -- the copy leaves its world alone, so the other run need not move
    obtain ⟨hworld, hnobody⟩ :=
      process_of_noted (s.timed d.now) (hnoted d.event copied repeatable)
    obtain ⟨hworlds, hlater⟩ := ih hindexed hbase hhome hnoted h
    constructor
    · show (deliver s base w).Alike .all R (deliver s more _)
      rw [hworld]
      exact hworlds
    · show _ = ((process d.event).run.calls (s.timed d.now) w' ++
        deliveryCalls s more _).map Container.timeless
      rw [hnobody, hworld]
      exact hlater

/-- Copies of container events, and of tasks that tell their time, make no difference wherever they
come after their events, if the identifiers of container events are indexed to their containers:
every record is the same up to recording times, the finalizer is called as often and for the same
records, and the same changes are published in the same order. -/
theorem deliver_repeats (hs : s.Blind R) (hout : R w.outside w.outside)
    (hhome : w.store.IsHome home) (hbase : ∀ d ∈ base, d.event.IsIndexed home)
    (hrepeats : Repeats [] base more) :
    (∀ id, ((deliver s base w).store.get? id).map Container.timeless =
      ((deliver s more w).store.get? id).map Container.timeless) ∧
    (deliveryCalls s base w).map Container.timeless =
      (deliveryCalls s more w).map Container.timeless ∧
    (deliver s base w).published.map LifecycleEvent.timeless =
      (deliver s more w).published.map LifecycleEvent.timeless := by
  have hself : w.Alike .all R w :=
    ⟨⟨w.store.fits_all, fun _ _ => rfl, fun _ _ => rfl⟩, hout, rfl⟩
  obtain ⟨hworlds, hcalls⟩ := alike_repeats hs hrepeats nofun hbase hhome nofun hself
  refine ⟨fun id => hworlds.store.records id rfl, hcalls, ?_⟩
  have hpublished := hworlds.published
  unfold World.publishedIn at hpublished
  have hall : ∀ events : List LifecycleEvent,
      events.filter (fun e => Scope.all.ids e.id) = events :=
    fun events => List.filter_eq_self.2 fun _ _ => rfl
  rw [hall, hall] at hpublished
  exact hpublished

/-- The service is complete. -/
def completing : EngineEvent :=
  .task 2 ⟨"s2", "t2", "n", "complete", some ⟨2, 0⟩, some "c2", none, some 0⟩

/-- The home of the plain container's identifier. -/
def mixedHome (name : String) : Option Int :=
  if name = "c1" then some 1 else none

theorem isHome_mixedStore : mixedStore.IsHome mixedHome := by
  have howned : mixedStore.IsOwned mixedOwner := Store.isOwned_of_forall (by decide) (by decide)
  have hhome : ∀ name id, mixedHome name = some id → name = "c1" ∧ id = 1 := by
    intro name id h
    unfold mixedHome at h
    split at h
    · next hname => exact ⟨hname, (Option.some.inj h).symm⟩
    · cases h
  refine ⟨fun name id h => ?_, fun name id h => ?_, fun name id other c h hc hname => ?_⟩
  · obtain ⟨rfl, rfl⟩ := hhome name id h
    rfl
  · obtain ⟨rfl, rfl⟩ := hhome name id h
    rfl
  · obtain ⟨rfl, rfl⟩ := hhome name id h
    have howner : mixedOwner "c1" = some 1 := rfl
    rw [howned.bears other c hc _ hname] at howner
    exact Option.some.inj howner

theorem deliver_repeats_mixed :
    let w : World Unit := { store := mixedStore, outside := () }
    let base := timedAt ⟨5, 0⟩ [running, death, completing]
    let more := timedAt ⟨7, 0⟩ [running, running, death, running, death, completing, death]
    Surroundings.still.Blind (fun _ _ => True) ∧ w.store.IsHome mixedHome ∧
      (∀ d ∈ base, d.event.IsIndexed mixedHome) ∧ Repeats [] base more ∧
      (∀ id, ((deliver .still base w).store.get? id).map Container.timeless =
        ((deliver .still more w).store.get? id).map Container.timeless) ∧
      (deliveryCalls .still base w).map Container.timeless =
        (deliveryCalls .still more w).map Container.timeless ∧
      (deliver .still base w).published.map LifecycleEvent.timeless =
        (deliver .still more w).published.map LifecycleEvent.timeless := by
  intro w base more
  have hblind : Surroundings.still.Blind fun _ _ => True :=
    ⟨Surroundings.still_saves, fun _ _ _ _ _ _ => trivial, fun _ _ _ _ _ _ => rfl,
      fun _ _ _ _ _ _ => trivial⟩
  have hbase : ∀ d ∈ base, d.event.IsIndexed mixedHome := by
    simp [base, timedAt, running, death, completing, EngineEvent.IsIndexed, mixedHome]
  have hrepeats : Repeats [] base more :=
    .next rfl (.again (by simp) rfl (.next rfl (.again (by simp) rfl (.again (by simp) trivial
      (.next rfl (.again (by simp) trivial (.nil _)))))))
  exact ⟨hblind, isHome_mixedStore, hbase, hrepeats,
    deliver_repeats hblind trivial isHome_mixedStore hbase hrepeats⟩

end Tracker

end Mooring
