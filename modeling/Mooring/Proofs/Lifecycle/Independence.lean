import Mooring.Proofs.Lifecycle.Likeness
import Mooring.Proofs.Store.Order

set_option autoImplicit false

/-!
# Containers do not depend on each other

Where every identifier of the engine belongs to one container at most, the records share a store, an
index and the locks, but nothing that is known of one of them depends on the others. An event stays
in the scope of the container it is about (`Tracker.spares_process`), and a container sees the events
that are about it, in whatever order they come among those of others (`Tracker.deliver_independent`).
-/

namespace Mooring

variable {σ : Type} {owner : String → Option Int} {store : Store} {e : EngineEvent}

/-! ## Owners -/

/-- The container that an event is about, where identifiers of the engine have owners. -/
def EngineEvent.container? (owner : String → Option Int) : EngineEvent → Option Int
  | .container e => owner e.id
  | .task id _ | .missing id => some id

/-- Whether an event brings no identifier that belongs to another container. -/
def EngineEvent.IsOwned (owner : String → Option Int) : EngineEvent → Prop
  | .task id t => ∀ name, t.containerId = some name → owner name = some id
  | .container _ | .missing _ => True

/-- Whether the identifiers of the engine in a store belong to the records they lead to, and to those
that bear them. -/
structure Store.IsOwned (owner : String → Option Int) (store : Store) : Prop where
  leads : ∀ name id, store.find? name = some id → owner name = some id
  bears : ∀ id c, store.get? id = some c → ∀ name ∈ c.externalIds, owner name = some id

theorem Store.isOwned_of_forall
    (hindex : ∀ p ∈ store.index.entries, owner p.1 = some p.2)
    (hrecords : ∀ c ∈ store.records, ∀ name ∈ c.externalIds, owner name = some c.databaseId) :
    store.IsOwned owner where
  leads name id hfind := by
    obtain ⟨front, back, hentries, -⟩ := List.lookup_eq_some_iff.1 hfind
    exact hindex (name, id) (by simp [hentries])
  bears id c hc name hname := by
    rw [← databaseId_of_get? hc]
    exact hrecords c (mem_of_get? hc) name hname

/-- The scope of a container, or of what belongs to none. -/
def Scope.of (owner : String → Option Int) (container : Option Int) : Scope :=
  ⟨fun id => container = some id, fun name => owner name = container⟩

theorem Store.IsOwned.fits (h : store.IsOwned owner) (container : Option Int) :
    store.Fits (.of owner container) where
  leads name id hname hfind := by
    have howner : owner name = container := of_decide_eq_true hname
    exact decide_eq_true (howner.symm.trans (h.leads name id hfind))
  bears id c hid hc name hname := by
    have hcontainer : container = some id := of_decide_eq_true hid
    exact decide_eq_true ((h.bears id c hc name hname).trans hcontainer.symm)

theorem Store.isOwned_of_fits (h : ∀ container, store.Fits (.of owner container)) :
    store.IsOwned owner where
  leads name id hfind := of_decide_eq_true ((h (owner name)).leads name id (decide_eq_true rfl) hfind)
  bears id c hc name hname :=
    of_decide_eq_true ((h (some id)).bears id c (decide_eq_true rfl) hc name hname)

theorem EngineEvent.IsOwned.in_of (h : e.IsOwned owner) : e.In (.of owner (e.container? owner)) := by
  cases e with
  | container e => exact decide_eq_true rfl
  | task id t => exact ⟨decide_eq_true rfl, fun name hname => decide_eq_true (h name hname)⟩
  | missing id => exact decide_eq_true rfl

/-- Scopes of different containers have nothing in common. -/
theorem Scope.ids_of_ne {container other : Option Int} (hne : container ≠ other) {id : Int}
    (hid : (Scope.of owner container).ids id = true) : (Scope.of owner other).ids id = false :=
  decide_eq_false fun h => hne ((of_decide_eq_true hid : container = some id).trans h.symm)

theorem Scope.names_of_ne {container other : Option Int} (hne : container ≠ other) {name : String}
    (hname : (Scope.of owner container).names name = true) :
    (Scope.of owner other).names name = false :=
  decide_eq_false fun h => hne ((of_decide_eq_true hname : owner name = container).symm.trans h)

namespace Tracker

variable {s : Surroundings σ} {w w' : World σ} {R : σ → σ → Prop}

/-! ## One event -/

/-- An event changes nothing outside the scope of its container. -/
theorem spares_process (s : Surroundings σ) (hw : w.store.IsOwned owner) (he : e.IsOwned owner) :
    w.Spares (.of owner (e.container? owner)) ((process e).run.run s w).2 :=
  (same_process he.in_of).spares s (hw.fits _)

theorem isOwned_process (s : Surroundings σ) (hw : w.store.IsOwned owner) (he : e.IsOwned owner) :
    ((process e).run.run s w).2.store.IsOwned owner := by
  have hspares := spares_process s hw he
  refine Store.isOwned_of_fits fun container => ?_
  by_cases hsame : container = e.container? owner
  · rw [hsame]
    exact hspares.fits
  · have hfits := hw.fits container
    refine ⟨fun name id hname hfind => ?_, fun id c hid hc => ?_⟩
    · rw [hspares.index name (Scope.names_of_ne hsame hname)] at hfind
      exact hfits.leads name id hname hfind
    · rw [hspares.records id (Scope.ids_of_ne hsame hid)] at hc
      exact hfits.bears id c hid hc

/-- What is known of one container is the same after an event of another. -/
theorem alike_of_other (s : Surroundings σ) (hw : w.store.IsOwned owner) (he : e.IsOwned owner)
    {container : Option Int} (hother : e.container? owner ≠ container)
    (h : w.Alike (.of owner container) (fun _ _ => True) w') :
    ((process e).run.run s w).2.Alike (.of owner container) (fun _ _ => True) w' := by
  have hspares := spares_process s hw he
  refine ⟨⟨(isOwned_process s hw he).fits container, fun id hid => ?_, fun name hname => ?_⟩,
    trivial, ?_⟩
  · rw [hspares.records id (Scope.ids_of_ne (Ne.symm hother) hid)]
    exact h.store.records id hid
  · rw [hspares.index name (Scope.names_of_ne (Ne.symm hother) hname)]
    exact h.store.index name hname
  · rw [hspares.published _ fun id hid => Scope.ids_of_ne hother hid]
    exact h.published

/-! ## Many events -/

variable {ds ds' : List (Delivery σ)}

theorem isOwned_deliver (s : Surroundings σ) (hw : w.store.IsOwned owner)
    (hds : ∀ d ∈ ds, d.event.IsOwned owner) : (deliver s ds w).store.IsOwned owner := by
  induction ds generalizing w with
  | nil => exact hw
  | cons d rest ih =>
    obtain ⟨hd, hrest⟩ := List.forall_mem_cons.1 hds
    exact ih (isOwned_process _ hw hd) hrest

/-- The deliveries of events that are about one container. -/
def about (owner : String → Option Int) (container : Option Int) (ds : List (Delivery σ)) :
    List (Delivery σ) :=
  ds.filter fun d => d.event.container? owner = container

/-- One container is the same after all events and after those that are about it. -/
theorem alike_about (hs : s.Blind fun _ _ => True) (container : Option Int)
    (hw : w.store.IsOwned owner) (hds : ∀ d ∈ ds, d.event.IsOwned owner)
    (h : w.Alike (.of owner container) (fun _ _ => True) w') :
    (deliver s ds w).Alike (.of owner container) (fun _ _ => True)
      (deliver s (about owner container ds) w') := by
  induction ds generalizing w w' with
  | nil => exact h
  | cons d rest ih =>
    obtain ⟨hd, hrest⟩ := List.forall_mem_cons.1 hds
    have howned := isOwned_process (s.timed d.now) hw hd
    unfold about
    by_cases hsame : d.event.container? owner = container
    · rw [List.filter_cons_of_pos (by simpa using hsame)]
      have hin : d.event.In (.of owner container) := hsame ▸ hd.in_of
      exact ih howned hrest ((same_process hin).run hs d.now d.now h).2.1
    · rw [List.filter_cons_of_neg (by simpa using hsame)]
      exact ih howned hrest (alike_of_other _ hw hd hsame h)

/-- The same events do the same whatever the clocks show. -/
theorem alike_deliver {sc : Scope} (hs : s.Blind R) (hevents : ds.map Delivery.event =
    ds'.map Delivery.event) (hds : ∀ d ∈ ds, d.event.In sc) (h : w.Alike sc R w') :
    (deliver s ds w).Alike sc R (deliver s ds' w') := by
  induction ds generalizing ds' w w' with
  | nil =>
    obtain rfl : ds' = [] := List.map_eq_nil_iff.1 hevents.symm
    exact h
  | cons d rest ih =>
    obtain ⟨d', rest', rfl, hd', hrest'⟩ := List.map_eq_cons_iff.1 hevents.symm
    obtain ⟨hd, hrest⟩ := List.forall_mem_cons.1 hds
    have hstep := ((same_process hd).run hs d.now d'.now h).2.1
    show (deliver s rest _).Alike sc R (deliver s rest' _)
    refine ih hrest'.symm hrest ?_
    rw [← hd'] at hstep ⊢
    exact hstep

/-! ## Any order of containers -/

/-- Where no identifier of the engine belongs to two containers, sequences of events that are the
same for each container leave every record the same up to recording times, and no event changes a
record but that of its own container. -/
theorem deliver_independent (hs : s.Saves)
    (hfinalizer : ∀ c c' outside outside', c.timeless = c'.timeless →
      (s.finalizer c outside).1 = (s.finalizer c' outside').1)
    (hw : w.store.IsOwned owner)
    (hds : ∀ d ∈ ds, d.event.IsOwned owner) (hds' : ∀ d ∈ ds', d.event.IsOwned owner)
    (hsame : ∀ id : Int,
      (ds.map Delivery.event).filter (fun e => e.container? owner = some id) =
        (ds'.map Delivery.event).filter fun e => e.container? owner = some id) :
    (∀ id, ((deliver s ds w).store.get? id).map Container.timeless =
      ((deliver s ds' w).store.get? id).map Container.timeless) ∧
    ∀ early d late, ds = early ++ d :: late → ∀ id, d.event.container? owner ≠ some id →
      (deliver s (early ++ [d]) w).store.get? id = (deliver s early w).store.get? id := by
  have hblind : s.Blind fun _ _ => True :=
    ⟨hs, fun _ _ _ _ _ _ => trivial, fun _ _ _ _ h _ => hfinalizer _ _ _ _ h,
      fun _ _ _ _ _ _ => trivial⟩
  constructor
  · intro id
    let sc := Scope.of owner (some id)
    have hid : sc.ids id = true := decide_eq_true rfl
    have hself : w.Alike sc (fun _ _ => True) w :=
      ⟨⟨hw.fits _, fun _ _ => rfl, fun _ _ => rfl⟩, trivial, rfl⟩
    -- both sequences come to the same as the events that are about the container
    have hfirst := alike_about hblind (some id) hw hds hself
    have hsecond := alike_about hblind (some id) hw hds' hself
    have hevents : (about owner (some id) ds).map Delivery.event =
        (about owner (some id) ds').map Delivery.event := by
      have h := hsame id
      rw [List.filter_map, List.filter_map] at h
      exact h
    have hin : ∀ d ∈ about owner (some id) ds, d.event.In sc := by
      intro d hd
      obtain ⟨hmem, habout⟩ := List.mem_filter.1 hd
      have hcontainer : d.event.container? owner = some id := of_decide_eq_true habout
      show d.event.In (.of owner (some id))
      rw [← hcontainer]
      exact (hds d hmem).in_of
    have hboth := alike_deliver hblind hevents hin hself
    exact (hfirst.store.records id hid).trans
      ((hboth.store.records id hid).trans (hsecond.store.records id hid).symm)
  · rintro early d late rfl id hother
    have hearly : ∀ d ∈ early, d.event.IsOwned owner :=
      fun d hd => hds d (List.mem_append_left _ hd)
    have hd : d.event.IsOwned owner := hds d (by simp)
    rw [deliver_append]
    exact (spares_process _ (isOwned_deliver s hw hearly) hd).records id (decide_eq_false hother)

/-- A store with the records of a plain container and of a service. -/
def mixedStore : Store where
  records := [
    { databaseId := 1, commandId := 1, containerId := some "c1", userId := "u", image := "i",
      commandLine := "l", statusTime := ⟨0, 0⟩ },
    { databaseId := 2, commandId := 1, serviceId := some "s2", userId := "u", image := "i",
      commandLine := "l", swarm := true, statusTime := ⟨0, 0⟩ }]
  index := .ofPairs [("c1", 1), ("s2", 2)]
  nextId := 3

/-- Who has the identifiers of the engine; the service gets a container of its own. -/
def mixedOwner (name : String) : Option Int :=
  if name = "c1" then some 1 else if name = "s2" ∨ name = "c2" then some 2 else none

/-- The death of the plain container. -/
def death : EngineEvent :=
  .container ⟨"die", "c1", 0, 0, .ofPairs [("exitCode", "0")]⟩

/-- The service runs in a container. -/
def running : EngineEvent :=
  .task 2 ⟨"s2", "t2", "n", "running", some ⟨1, 0⟩, some "c2", none, none⟩

/-- The container of the service is killed. -/
def slaying : EngineEvent :=
  .container ⟨"kill", "c2", 0, 0, .empty⟩

/-- Events processed at some time. -/
def timedAt (time : Instant) (events : List EngineEvent) : List (Delivery Unit) :=
  events.map fun event => ⟨event, fun _ => time⟩

theorem deliver_independent_mixed :
    let w : World Unit := { store := mixedStore, outside := () }
    let ds := timedAt ⟨5, 0⟩ [death, running, slaying]
    let ds' := timedAt ⟨7, 0⟩ [running, slaying, death]
    Surroundings.still.Saves ∧
      (∀ c c' outside outside', c.timeless = c'.timeless →
        (Surroundings.still.finalizer c outside).1 = (Surroundings.still.finalizer c' outside').1) ∧
      w.store.IsOwned mixedOwner ∧ (∀ d ∈ ds, d.event.IsOwned mixedOwner) ∧
      (∀ d ∈ ds', d.event.IsOwned mixedOwner) ∧
      (∀ id : Int,
        (ds.map Delivery.event).filter (fun e => e.container? mixedOwner = some id) =
          (ds'.map Delivery.event).filter fun e => e.container? mixedOwner = some id) ∧
      (∀ id, ((deliver .still ds w).store.get? id).map Container.timeless =
        ((deliver .still ds' w).store.get? id).map Container.timeless) ∧
      ∀ early d late, ds = early ++ d :: late → ∀ id, d.event.container? mixedOwner ≠ some id →
        (deliver .still (early ++ [d]) w).store.get? id = (deliver .still early w).store.get? id := by
  intro w ds ds'
  have hsaves : Surroundings.still.Saves := Surroundings.still_saves
  have howned : w.store.IsOwned mixedOwner := Store.isOwned_of_forall (by decide) (by decide)
  have hevents : ∀ e ∈ [death, running, slaying], e.IsOwned mixedOwner := by
    simp [death, running, slaying, EngineEvent.IsOwned, mixedOwner]
  have hds : ∀ d ∈ ds, d.event.IsOwned mixedOwner := by
    intro d hd
    obtain ⟨e, he, rfl⟩ := List.mem_map.1 hd
    exact hevents e he
  have hds' : ∀ d ∈ ds', d.event.IsOwned mixedOwner := by
    intro d hd
    obtain ⟨e, he, rfl⟩ := List.mem_map.1 hd
    exact hevents e (by simp at he ⊢; tauto)
  have hsame : ∀ id : Int,
      (ds.map Delivery.event).filter (fun e => e.container? mixedOwner = some id) =
        (ds'.map Delivery.event).filter fun e => e.container? mixedOwner = some id := by
    intro id
    by_cases h1 : id = 1
    · subst h1
      rfl
    · have hother : death.container? mixedOwner ≠ some id := by
        simpa [death, EngineEvent.container?, mixedOwner] using Ne.symm h1
      simp [ds, ds', timedAt, List.filter_cons, hother]
  obtain ⟨hrecords, hothers⟩ :=
    deliver_independent hsaves (fun _ _ _ _ _ => rfl) howned hds hds' hsame
  exact ⟨hsaves, fun _ _ _ _ _ => rfl, howned, hds, hds', hsame, hrecords, hothers⟩

end Tracker

end Mooring
