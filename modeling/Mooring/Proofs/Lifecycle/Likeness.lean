import Mooring.Proofs.Container.Timeless
import Mooring.Proofs.Lifecycle.Redelivery
import Mooring.Proofs.Store.Growth

set_option autoImplicit false

/-!
# Runs that are alike

A `Scope` is a part of the store: some records, and identifiers of the engine that lead to none but
them. Two worlds are alike in a scope if they have the same there up to recording times. Two routines
are the same in a scope if they keep to it and go on alike after answers that are alike; `Same` has
one clause for each action that the tracker takes. Such routines lead alike worlds to alike worlds,
whatever their clocks show (`Same.run`), and leave everything outside the scope alone
(`Same.spares`). Processing an event is the same as itself in every scope that has what the event is
about (`Tracker.same_process`).
-/

namespace Mooring

/-! ## Scopes -/

/-- Some identifiers of records, and some identifiers of the engine. -/
structure Scope where
  ids : Int → Bool
  names : String → Bool

/-- The scope of everything. -/
def Scope.all : Scope :=
  ⟨fun _ => true, fun _ => true⟩

/-- Whether a scope is closed in a store: what leads to a record and what a record bears is on one
side of it. -/
structure Store.Fits (sc : Scope) (store : Store) : Prop where
  leads : ∀ name id, sc.names name = true → store.find? name = some id → sc.ids id = true
  bears : ∀ id c, sc.ids id = true → store.get? id = some c →
    ∀ name ∈ c.externalIds, sc.names name = true

theorem Store.fits_all (store : Store) : store.Fits .all :=
  ⟨fun _ _ _ _ => rfl, fun _ _ _ _ _ _ => rfl⟩

/-- Whether two stores have the same in a scope, up to recording times. -/
structure Store.Alike (sc : Scope) (store store' : Store) : Prop where
  fits : store.Fits sc
  records : ∀ id, sc.ids id = true →
    (store.get? id).map Container.timeless = (store'.get? id).map Container.timeless
  index : ∀ name, sc.names name = true → store.find? name = store'.find? name

/-- What was published about the records of a scope, recording times aside. -/
def World.publishedIn {σ : Type} (sc : Scope) (w : World σ) : List LifecycleEvent :=
  (w.published.filter fun e => sc.ids e.id).map LifecycleEvent.timeless

/-- Whether two worlds are alike in a scope, and related outside. -/
structure World.Alike {σ : Type} (sc : Scope) (R : σ → σ → Prop) (w w' : World σ) : Prop where
  store : w.store.Alike sc w'.store
  outside : R w.outside w'.outside
  published : w.publishedIn sc = w'.publishedIn sc

/-- Surroundings with another clock. -/
def Surroundings.timed {σ : Type} (s : Surroundings σ) (now : σ → Instant) : Surroundings σ :=
  { s with now }

/-- Whether surroundings save everything and do not mind recording times: what happens outside for
records that are the same up to times is related, and the finalizer answers the same. -/
structure Surroundings.Blind {σ : Type} (s : Surroundings σ) (R : σ → σ → Prop) : Prop where
  saves : s.Saves
  save : ∀ c c' outside outside', c.timeless = c'.timeless → R outside outside' →
    R (s.shelf.save c outside).2 (s.shelf.save c' outside').2
  answer : ∀ c c' outside outside', c.timeless = c'.timeless → R outside outside' →
    (s.finalizer c outside).1 = (s.finalizer c' outside').1
  finalize : ∀ c c' outside outside', c.timeless = c'.timeless → R outside outside' →
    R (s.finalizer c outside).2 (s.finalizer c' outside').2

/-! ## Changes of alike stores -/

section Changes

variable {σ : Type} {sc : Scope} {R : σ → σ → Prop} {s : Surroundings σ} {store store' : Store}
  {disk disk' : σ} {c c' d d' : Container} {id : Int}

namespace Store

theorem Fits.put (h : store.Fits sc) (hbears : ∀ name ∈ d.externalIds, sc.names name = true) :
    (store.put d).Fits sc where
  leads := h.leads
  bears id c hscope hc := by
    rw [get?_put] at hc
    split at hc
    · cases hc
      exact hbears
    · exact h.bears id c hscope hc

theorem Fits.indexed (h : store.Fits sc) (hid : sc.ids d.databaseId = true) :
    (store.indexed d).Fits sc where
  leads name id hname hfind := by
    rcases find?_indexed_cases hfind with rfl | hfind
    · exact hid
    · exact h.leads name id hname hfind
  bears := h.bears

/-- Records of alike stores are alike. -/
theorem Alike.get? (h : store.Alike sc store') (hid : sc.ids id = true)
    (hc : store.get? id = some c) : ∃ c', store'.get? id = some c' ∧ c.timeless = c'.timeless := by
  have hrecord := h.records id hid
  rw [hc] at hrecord
  obtain ⟨c', hc', hsame⟩ := Option.map_eq_some_iff.1 hrecord.symm
  exact ⟨c', hc', hsame.symm⟩

theorem Alike.get?_none (h : store.Alike sc store') (hid : sc.ids id = true)
    (hc : store.get? id = none) : store'.get? id = none := by
  have hrecord := h.records id hid
  rw [hc] at hrecord
  exact Option.map_eq_none_iff.1 hrecord.symm

theorem Alike.put (h : store.Alike sc store')
    (hbears : ∀ name ∈ d.externalIds, sc.names name = true) (hd : d.timeless = d'.timeless) :
    (store.put d).Alike sc (store'.put d') where
  fits := h.fits.put hbears
  records id hscope := by
    rw [get?_put, get?_put, Container.databaseId_alike hd]
    split
    · exact congrArg some hd
    · exact h.records id hscope
  index := h.index

theorem Alike.indexed (h : store.Alike sc store') (hid : sc.ids d.databaseId = true)
    (hd : d.timeless = d'.timeless) : (store.indexed d).Alike sc (store'.indexed d') where
  fits := h.fits.indexed hid
  records := h.records
  index name hname := by
    rw [find?_indexed, find?_indexed, Container.externalIds_alike hd, Container.databaseId_alike hd]
    split
    · rfl
    · exact h.index name hname

/-- An entry that is the same up to its time does the same to alike stores. -/
theorem Alike.append (h : store.Alike sc store') (hs : s.Blind R) (hout : R disk disk')
    (hid : sc.ids id = true) {e e' : HistoryEntry} (he : e.timeless = e'.timeless) :
    (store.append s.shelf id e disk).1 = (store'.append s.shelf id e' disk').1 ∧
      (store.append s.shelf id e disk).2.1.Alike sc (store'.append s.shelf id e' disk').2.1 ∧
      R (store.append s.shelf id e disk).2.2 (store'.append s.shelf id e' disk').2.2 := by
  cases hc : store.get? id with
  | none =>
    rw [append_of_none s.shelf disk hc, append_of_none s.shelf disk' (h.get?_none hid hc)]
    exact ⟨rfl, h, hout⟩
  | some c =>
    obtain ⟨c', hc', hsame⟩ := h.get? hid hc
    -- one record takes its entry exactly when the other does
    have hgrown := Container.append?_alike hsame he
    rcases append_of_saves disk hs.saves hc e with ⟨hd, hr⟩ | ⟨d, hd, hr⟩ <;>
      rcases append_of_saves disk' hs.saves hc' e' with ⟨hd', hr'⟩ | ⟨d', hd', hr'⟩ <;>
      rw [hd, hd'] at hgrown
    · rw [hr, hr']
      exact ⟨rfl, h, hout⟩
    · cases hgrown
    · cases hgrown
    · have hsame' : d.timeless = d'.timeless := Option.some.inj hgrown
      have hbears : ∀ name ∈ d.externalIds, sc.names name = true := by
        rw [Container.externalIds_of_append? hd]
        exact h.fits.bears id c hid hc
      rw [hr, hr', Container.status_alike hsame, Container.status_alike hsame']
      exact ⟨rfl, h.put hbears hsame', hs.save d d' disk disk' hsame' hout⟩

/-- A change that does not mind times does the same to alike stores. -/
theorem Alike.update (h : store.Alike sc store') (hs : s.Blind R) (hout : R disk disk')
    (hid : sc.ids id = true) {f f' : Container → Container}
    (hsame : ∀ c c', c.timeless = c'.timeless → (f c).timeless = (f' c').timeless)
    (hkept : ∀ c, (f c).databaseId = c.databaseId)
    (hbears : ∀ c, (∀ name ∈ c.externalIds, sc.names name = true) →
      ∀ name ∈ (f c).externalIds, sc.names name = true) :
    (store.update s.shelf id f disk).1 = (store'.update s.shelf id f' disk').1 ∧
      (store.update s.shelf id f disk).2.1.Alike sc (store'.update s.shelf id f' disk').2.1 ∧
      R (store.update s.shelf id f disk).2.2 (store'.update s.shelf id f' disk').2.2 := by
  cases hc : store.get? id with
  | none =>
    rw [update_of_none s.shelf disk hc, update_of_none s.shelf disk' (h.get?_none hid hc)]
    exact ⟨rfl, h, hout⟩
  | some c =>
    obtain ⟨c', hc', halike⟩ := h.get? hid hc
    have hchanged := hsame c c' halike
    have hfid : sc.ids (f c).databaseId = true := by
      rw [hkept, databaseId_of_get? hc]
      exact hid
    rw [update_of_saves disk hs.saves hc f, update_of_saves disk' hs.saves hc' f']
    exact ⟨rfl, (h.indexed hfid hchanged).put (hbears c (h.fits.bears id c hid hc)) hchanged,
      hs.save _ _ _ _ hchanged hout⟩

end Store

end Changes

/-! ## Routines that are the same -/

/-- The record that an action calls the finalizer for. -/
def Action.finalized? : Action → Option Container
  | .finalizer c => some c
  | _ => none

namespace Routine

variable {σ α β : Type}

/-- The records that the finalizer is called for in a run of a routine, in order. -/
def calls (s : Surroundings σ) : Routine α → World σ → List Container
  | done _, _ => []
  | step action next, w =>
    action.finalized?.toList ++ (next (s.perform w action).1).calls s (s.perform w action).2

/-- Whether two routines keep to a scope and go on alike after answers that are alike, up to values
that are related. -/
inductive Same (sc : Scope) (V : α → α → Prop) : Routine α → Routine α → Prop
  | done {a a' : α} (value : V a a') : Same sc V (.done a) (.done a')
  | find {name : String} {k k' : Option Int → Routine α} (inside : sc.names name = true)
      (next : ∀ r, (∀ id, r = some id → sc.ids id = true) → Same sc V (k r) (k' r)) :
      Same sc V (.step (.find name) k) (.step (.find name) k')
  | get {id : Int} {k k' : Option Container → Routine α} (inside : sc.ids id = true)
      (next : ∀ r r', r.map Container.timeless = r'.map Container.timeless →
        Same sc V (k r) (k' r')) :
      Same sc V (.step (.get id) k) (.step (.get id) k')
  | append {id : Int} {entry entry' : Instant → HistoryEntry}
      {k k' : Except StoreError (Option StatusChange) → Routine α} (inside : sc.ids id = true)
      (alike : ∀ now later, (entry now).timeless = (entry' later).timeless)
      (next : ∀ r, Same sc V (k r) (k' r)) :
      Same sc V (.step (.append id entry) k) (.step (.append id entry') k')
  | update {id : Int} {f f' : Container → Container}
      {k k' : Except StoreError Container → Routine α} (inside : sc.ids id = true)
      (alike : ∀ c c', c.timeless = c'.timeless → (f c).timeless = (f' c').timeless)
      (kept : ∀ c, (f c).databaseId = c.databaseId)
      (bears : ∀ c, (∀ name ∈ c.externalIds, sc.names name = true) →
        ∀ name ∈ (f c).externalIds, sc.names name = true)
      (next : ∀ r r', r.map Container.timeless = r'.map Container.timeless →
        Same sc V (k r) (k' r')) :
      Same sc V (.step (.update id f) k) (.step (.update id f') k')
  | publish {event event' : Instant → LifecycleEvent} {k k' : Unit → Routine α}
      (inside : ∀ now, sc.ids (event now).id = true)
      (alike : ∀ now later, (event now).timeless = (event' later).timeless)
      (next : Same sc V (k ()) (k' ())) :
      Same sc V (.step (.publish event) k) (.step (.publish event') k')
  | lock {id : Int} {k k' : Unit → Routine α} (next : Same sc V (k ()) (k' ())) :
      Same sc V (.step (.lock id) k) (.step (.lock id) k')
  | unlock {id : Int} {k k' : Unit → Routine α} (next : Same sc V (k ()) (k' ())) :
      Same sc V (.step (.unlock id) k) (.step (.unlock id) k')
  | finalizer {c c' : Container} {k k' : Except (List String) (List String) → Routine α}
      (alike : c.timeless = c'.timeless) (next : ∀ r, Same sc V (k r) (k' r)) :
      Same sc V (.step (.finalizer c) k) (.step (.finalizer c') k')

variable {sc : Scope} {V : α → α → Prop} {W : β → β → Prop} {t t' : Routine α}

theorem Same.bind {f f' : α → Routine β} (h : Same sc V t t')
    (hf : ∀ a a', V a a' → Same sc W (f a) (f' a')) : Same sc W (t.bind f) (t'.bind f') := by
  induction h with
  | done value => exact hf _ _ value
  | find inside next ih => exact .find inside ih
  | get inside next ih => exact .get inside ih
  | append inside alike next ih => exact .append inside alike ih
  | update inside alike kept bears next ih => exact .update inside alike kept bears ih
  | publish inside alike next ih => exact .publish inside alike ih
  | lock next ih => exact .lock ih
  | unlock next ih => exact .unlock ih
  | finalizer alike next ih => exact .finalizer alike ih

/-- Whether two answers are the same error, or values that are related. -/
def Agree (V : α → α → Prop) : Except Error α → Except Error α → Prop
  | .ok a, .ok a' => V a a'
  | .error e, .error e' => e = e'
  | _, _ => False

theorem Same.bindJob {j j' : Job α} {f f' : α → Job β} (h : Same sc (Agree V) j.run j'.run)
    (hf : ∀ a a', V a a' → Same sc (Agree W) (f a).run (f' a').run) :
    Same sc (Agree W) (j >>= f).run (j' >>= f').run := by
  refine Same.bind h fun r r' hr => ?_
  rcases r with e | a <;> rcases r' with e' | a'
  · exact .done hr
  · exact hr.elim
  · exact hr.elim
  · exact hf a a' hr

end Routine

/-! ## Actions in alike worlds -/

namespace World

variable {σ : Type} {sc : Scope} {R : σ → σ → Prop} {w w' : World σ} {id : Int}

/-- Where the records of alike worlds are looked up after a change, they are alike. -/
theorem Alike.withRecord (h : w.Alike sc R w') (hid : sc.ids id = true)
    {r r' : Except StoreError Unit} (hr : r = r') :
    (World.withRecord id (r, w)).1.map Container.timeless =
        (World.withRecord id (r', w')).1.map Container.timeless ∧
      (World.withRecord id (r, w)).2.Alike sc R (World.withRecord id (r', w')).2 := by
  subst hr
  rcases r with e | ⟨⟩
  · exact ⟨rfl, h⟩
  · unfold World.withRecord
    cases hc : w.store.get? id with
    | none =>
      simp only [hc, h.store.get?_none hid hc]
      exact ⟨trivial, h⟩
    | some c =>
      obtain ⟨c', hc', hsame⟩ := h.store.get? hid hc
      simp only [hc, hc']
      exact ⟨congrArg Except.ok hsame, h⟩

theorem Alike.publish (h : w.Alike sc R w') {event event' : LifecycleEvent}
    (hid : sc.ids event.id = true) (hsame : event.timeless = event'.timeless) :
    { w with published := w.published ++ [event] }.Alike sc R
      { w' with published := w'.published ++ [event'] } where
  store := h.store
  outside := h.outside
  published := by
    have hid' : sc.ids event'.id = true := by
      have hids : event.id = event'.id := by
        cases event <;> cases event' <;> cases hsame <;> rfl
      rw [← hids]
      exact hid
    have hbefore := h.published
    unfold publishedIn at hbefore ⊢
    simp only [List.filter_append, List.map_append, hbefore]
    simp [hid, hid', hsame]

end World

namespace Routine

variable {σ α : Type} {sc : Scope} {R : σ → σ → Prop} {s : Surroundings σ} {V : α → α → Prop}
  {t t' : Routine α} {w w' : World σ}

/-- Routines that are the same lead alike worlds to alike worlds, with the same calls of the
finalizer, whatever the clocks show. -/
theorem Same.run (hs : s.Blind R) (now now' : σ → Instant) (h : Same sc V t t')
    (hw : w.Alike sc R w') :
    V (t.run (s.timed now) w).1 (t'.run (s.timed now') w').1 ∧
      (t.run (s.timed now) w).2.Alike sc R (t'.run (s.timed now') w').2 ∧
      (t.calls (s.timed now) w).map Container.timeless =
        (t'.calls (s.timed now') w').map Container.timeless := by
  induction h generalizing w w' with
  | done value => exact ⟨value, hw, rfl⟩
  | @find name k k' inside next ih =>
    have hanswer := hw.store.index name inside
    have hleads : ∀ id, w.store.find? name = some id → sc.ids id = true :=
      fun id => hw.store.fits.leads name id inside
    -- both continuations get the answer of the first index
    have hrest := ih _ hleads hw
    rw [show (k' (w.store.find? name)) = k' (w'.store.find? name) from congrArg k' hanswer] at hrest
    exact hrest
  | @get id k k' inside next ih => exact ih _ _ (hw.store.records id inside) hw
  | @append id entry entry' k k' inside alike next ih =>
    obtain ⟨hanswer, hstore, hout⟩ := hw.store.append hs hw.outside inside
      (alike (now w.outside) (now' w'.outside))
    have hchanged : (w.afterStore (w.store.append s.shelf id (entry (now w.outside))
        w.outside)).2.Alike sc R (w'.afterStore (w'.store.append s.shelf id
          (entry' (now' w'.outside)) w'.outside)).2 := ⟨hstore, hout, hw.published⟩
    have hrest := ih (w.store.append s.shelf id (entry (now w.outside)) w.outside).1 hchanged
    rw [congrArg k' hanswer] at hrest
    exact hrest
  | @update id f f' k k' inside alike kept bears next ih =>
    obtain ⟨hanswer, hstore, hout⟩ := hw.store.update hs hw.outside inside alike kept bears
    have hchanged : (w.afterStore (w.store.update s.shelf id f w.outside)).2.Alike sc R
        (w'.afterStore (w'.store.update s.shelf id f' w'.outside)).2 :=
      ⟨hstore, hout, hw.published⟩
    obtain ⟨hrecord, hworld⟩ := hchanged.withRecord inside hanswer
    exact ih _ _ hrecord hworld
  | publish inside alike next ih => exact ih (hw.publish (inside _) (alike _ _))
  | lock next ih => exact ih ⟨hw.store, hw.outside, hw.published⟩
  | unlock next ih => exact ih ⟨hw.store, hw.outside, hw.published⟩
  | @finalizer c c' k k' alike next ih =>
    have hanswer := hs.answer c c' w.outside w'.outside alike hw.outside
    have hchanged : (w.afterOutside (s.finalizer c w.outside)).2.Alike sc R
        (w'.afterOutside (s.finalizer c' w'.outside)).2 :=
      ⟨hw.store, hs.finalize c c' w.outside w'.outside alike hw.outside, hw.published⟩
    obtain ⟨hvalue, hworld, hcalls⟩ := ih _ hchanged
    rw [congrArg k' hanswer] at hvalue hworld hcalls
    exact ⟨hvalue, hworld, congrArg₂ List.cons alike hcalls⟩

end Routine

/-! ## What is outside a scope -/

/-- Whether a world differs from the one before it in a scope alone. -/
structure World.Spares {σ : Type} (sc : Scope) (w w' : World σ) : Prop where
  fits : w'.store.Fits sc
  records : ∀ id, sc.ids id = false → w'.store.get? id = w.store.get? id
  index : ∀ name, sc.names name = false → w'.store.find? name = w.store.find? name
  published : ∀ other : Scope, (∀ id, sc.ids id = true → other.ids id = false) →
    w'.publishedIn other = w.publishedIn other

namespace World

variable {σ : Type} {sc : Scope} {s : Surroundings σ} {w w' w'' : World σ} {id : Int}

/-- What happens outside, and what is held, does not matter. -/
theorem Spares.of_eq (h : w.store.Fits sc) (hstore : w'.store = w.store)
    (hpublished : w'.published = w.published) : w.Spares sc w' := by
  refine ⟨?_, fun _ _ => ?_, fun _ _ => ?_, fun _ _ => ?_⟩
  · rw [hstore]
    exact h
  · rw [hstore]
  · rw [hstore]
  · unfold publishedIn
    rw [hpublished]

theorem Spares.refl (h : w.store.Fits sc) : w.Spares sc w :=
  .of_eq h rfl rfl

theorem Spares.trans (h : w.Spares sc w') (h' : w'.Spares sc w'') : w.Spares sc w'' where
  fits := h'.fits
  records id hid := (h'.records id hid).trans (h.records id hid)
  index name hname := (h'.index name hname).trans (h.index name hname)
  published other hother := (h'.published other hother).trans (h.published other hother)

theorem spares_append (s : Surroundings σ) (h : w.store.Fits sc) (hid : sc.ids id = true)
    (e : HistoryEntry) :
    w.Spares sc (w.afterStore (w.store.append s.shelf id e w.outside)).2 := by
  have hothers : ∀ other, sc.ids other = false →
      (w.store.append s.shelf id e w.outside).2.1.get? other = w.store.get? other := by
    intro other hother
    refine Store.get?_append_of_ne s.shelf w.outside e ?_
    rintro rfl
    rw [hid] at hother
    cases hother
  rcases Store.store_append_cases s.shelf id w.store w.outside e with hr | ⟨c, d, hc, hd, hr⟩
  · exact .of_eq h hr rfl
  · have hbears : ∀ name ∈ d.externalIds, sc.names name = true := by
      rw [Container.externalIds_of_append? hd]
      exact h.bears id c hid hc
    have hstore : (w.afterStore (w.store.append s.shelf id e w.outside)).2.store =
        w.store.put d := hr
    refine ⟨?_, hothers, fun _ _ => ?_, fun _ _ => rfl⟩
    · rw [hstore]
      exact h.put hbears
    · rw [hstore]
      rfl

theorem spares_update (s : Surroundings σ) (h : w.store.Fits sc) (hid : sc.ids id = true)
    {f : Container → Container} (hkept : ∀ c, (f c).databaseId = c.databaseId)
    (hbears : ∀ c, (∀ name ∈ c.externalIds, sc.names name = true) →
      ∀ name ∈ (f c).externalIds, sc.names name = true) :
    w.Spares sc (w.afterStore (w.store.update s.shelf id f w.outside)).2 := by
  have hothers : ∀ other, sc.ids other = false →
      (w.store.update s.shelf id f w.outside).2.1.get? other = w.store.get? other := by
    intro other hother
    refine Store.get?_update_of_ne s.shelf w.outside hkept ?_
    rintro rfl
    rw [hid] at hother
    cases hother
  rcases Store.store_update_cases s.shelf id w.store w.outside f with hr | ⟨c, hc, hr⟩
  · exact .of_eq h hr rfl
  · have hnames := hbears c (h.bears id c hid hc)
    have hfid : sc.ids (f c).databaseId = true := by
      rw [hkept, Store.databaseId_of_get? hc]
      exact hid
    have hstore : (w.afterStore (w.store.update s.shelf id f w.outside)).2.store =
        (w.store.indexed (f c)).put (f c) := hr
    refine ⟨?_, hothers, fun name hname => ?_, fun _ _ => rfl⟩
    · rw [hstore]
      exact (h.indexed hfid).put hnames
    · rw [hstore]
      show (w.store.indexed (f c)).find? name = w.store.find? name
      rw [Store.find?_indexed, if_neg]
      intro hmem
      rw [hnames name hmem] at hname
      cases hname

theorem spares_publish (h : w.store.Fits sc) {event : LifecycleEvent}
    (hid : sc.ids event.id = true) :
    w.Spares sc { w with published := w.published ++ [event] } where
  fits := h
  records _ _ := rfl
  index _ _ := rfl
  published other hother := by
    unfold publishedIn
    simp [hother event.id hid]

end World

/-- A routine that keeps to a scope leaves everything else alone. -/
theorem Routine.Same.spares {σ α : Type} {sc : Scope} {V : α → α → Prop} {t t' : Routine α}
    (s : Surroundings σ) (h : Same sc V t t') {w : World σ} (hw : w.store.Fits sc) :
    w.Spares sc (t.run s w).2 := by
  induction h generalizing w with
  | done value => exact .refl hw
  | @find name k k' inside next ih => exact ih _ (fun id => hw.leads name id inside) hw
  | get inside next ih => exact ih _ _ rfl hw
  | @append id entry entry' k k' inside alike next ih =>
    have hfirst := World.spares_append s hw inside (entry (s.now w.outside))
    exact hfirst.trans (ih _ hfirst.fits)
  | @update id f f' k k' inside alike kept bears next ih =>
    have hfirst : w.Spares sc (World.withRecord id
        (w.afterStore (w.store.update s.shelf id f w.outside))).2 := by
      rw [World.snd_withRecord]
      exact World.spares_update s hw inside kept bears
    exact hfirst.trans (ih _ _ rfl hfirst.fits)
  | publish inside alike next ih =>
    have hfirst := World.spares_publish hw (inside (s.now w.outside))
    exact hfirst.trans (ih hfirst.fits)
  | @lock id k k' next ih =>
    have hfirst : w.Spares sc { w with held := id :: w.held } := .of_eq hw rfl rfl
    exact hfirst.trans (ih hfirst.fits)
  | @unlock id k k' next ih =>
    have hfirst : w.Spares sc { w with held := w.held.erase id } := .of_eq hw rfl rfl
    exact hfirst.trans (ih hfirst.fits)
  | @finalizer c c' k k' alike next ih =>
    have hfirst : w.Spares sc { w with outside := (s.finalizer c w.outside).2 } :=
      .of_eq hw rfl rfl
    exact hfirst.trans (ih _ hfirst.fits)

/-! ## The routines of the tracker -/

/-- Whether a scope has what an event is about. -/
def EngineEvent.In (sc : Scope) : EngineEvent → Prop
  | .container e => sc.names e.id = true
  | .task id t => sc.ids id = true ∧ ∀ name, t.containerId = some name → sc.names name = true
  | .missing id => sc.ids id = true

theorem EngineEvent.in_all (e : EngineEvent) : e.In .all := by
  cases e with
  | container e => rfl
  | task id t => exact ⟨rfl, fun _ _ => rfl⟩
  | missing id => rfl

namespace Tracker

open Routine

variable {sc : Scope} {id : Int} {c c' : Container}

theorem same_record (hid : sc.ids id = true) {entry entry' : Instant → HistoryEntry}
    (halike : ∀ now later, (entry now).timeless = (entry' later).timeless) :
    Same sc (Agree Eq) (record id entry).run (record id entry').run := by
  have happend : Same sc (Agree Eq) (Job.append id entry).run (Job.append id entry').run := by
    refine .append hid halike fun r => .done ?_
    cases r <;> rfl
  refine Same.bindJob happend fun change _ h => ?_
  subst h
  cases change with
  | none => exact .done rfl
  | some change =>
    -- the change is the same in both, so that both publish it or neither does
    suffices hrest : ∀ job : Job (Option StatusChange), job = (do
        if change.moved then
          Job.ask (.publish (LifecycleEvent.statusChanged id change.before change.after))
        return some change) → Same sc (Agree Eq) job.run job.run from hrest _ rfl
    rintro job rfl
    split
    · exact .publish (fun _ => hid) (fun _ _ => rfl) (.done rfl)
    · exact .done rfl

/-- Records that are the same up to times. -/
abbrev Likeness : Container → Container → Prop :=
  fun c c' => c.timeless = c'.timeless

theorem same_update (hid : sc.ids id = true) {f f' : Container → Container}
    (halike : ∀ c c', c.timeless = c'.timeless → (f c).timeless = (f' c').timeless)
    (hkept : ∀ c, (f c).databaseId = c.databaseId)
    (hbears : ∀ c, (∀ name ∈ c.externalIds, sc.names name = true) →
      ∀ name ∈ (f c).externalIds, sc.names name = true) :
    Same sc (Agree Likeness) (Job.update id f).run (Job.update id f').run := by
  refine .update hid halike hkept hbears fun r r' hr => .done ?_
  rcases r with e | c <;> rcases r' with e' | c'
  · exact congrArg Error.store (Except.error.inj hr)
  · cases hr
  · cases hr
  · exact Except.ok.inj hr

/-- Whether two values of a handling are the same, and a record of the scope if they are one. -/
def Hand (sc : Scope) (r r' : Option Int) : Prop :=
  r = r' ∧ ∀ id, r = some id → sc.ids id = true

theorem same_handleContainer {e : ContainerEvent} (h : sc.names e.id = true) :
    Same sc (Agree (Hand sc)) (handleContainer e).run (handleContainer e).run := by
  refine .find h fun found hfound => ?_
  cases found with
  | none => exact .done ⟨rfl, nofun⟩
  | some id =>
    have hid := hfound id rfl
    refine Same.bindJob (same_record hid fun _ _ => rfl) fun change _ hchange => ?_
    subst hchange
    refine .done ⟨rfl, fun other hother => ?_⟩
    split at hother
    · cases hother
      exact hid
    · cases hother

/-- A record with a task bears its identifiers, and that of the task's container. -/
theorem mem_externalIds_withTask {t : ServiceTask} {name : String}
    (h : name ∈ (withTask t c).externalIds) : name ∈ c.externalIds ∨ t.containerId = some name := by
  simp only [Container.externalIds, List.mem_append, Option.mem_toList] at h ⊢
  rcases h with hcontainer | hservice
  · cases hnew : t.containerId with
    | none => exact .inl (.inl (by simpa [withTask, hnew] using hcontainer))
    | some other => exact .inr (by simpa [withTask, hnew] using hcontainer)
  · exact .inl (.inr hservice)

theorem same_place {t : ServiceTask} (hid : sc.ids id = true)
    (hnames : ∀ name, t.containerId = some name → sc.names name = true) :
    Same sc (Agree (Hand sc)) (place id t).run (place id t).run := by
  have hbears : ∀ c : Container, (∀ name ∈ c.externalIds, sc.names name = true) →
      ∀ name ∈ (withTask t c).externalIds, sc.names name = true := by
    intro c hc name hname
    rcases mem_externalIds_withTask hname with hold | hnew
    · exact hc name hold
    · exact hnames name hnew
  have hupdate : Same sc (Agree Likeness) (Job.update id (withTask t)).run
      (Job.update id (withTask t)).run :=
    same_update hid (fun _ _ h => congrArg (withTask t) h) (fun _ => rfl) hbears
  refine Same.bindJob hupdate fun _ _ _ => ?_
  refine .publish (fun _ => hid) (fun _ _ => rfl) (.done ⟨rfl, fun other hother => ?_⟩)
  split at hother
  · cases hother
    exact hid
  · cases hother

theorem same_handleMissing (hid : sc.ids id = true) :
    Same sc (Agree (Hand sc)) (handleMissing id).run (handleMissing id).run := by
  have hrecord : Same sc (Agree (Hand sc))
      (record id (systemEntry .failed missingMessage) >>= fun _ => pure none : Job _).run
      (record id (systemEntry .failed missingMessage) >>= fun _ => pure none : Job _).run :=
    Same.bindJob (same_record hid fun _ _ => rfl) fun _ _ _ => .done ⟨rfl, nofun⟩
  -- the record is there in both worlds or in neither
  refine .get hid fun r r' hr => ?_
  rcases r with _ | c <;> rcases r' with _ | c'
  · exact hrecord
  · cases hr
  · cases hr
  · have hkilled : c.wasKilled = c'.wasKilled := by
      rw [← Container.wasKilled_timeless, Option.some.inj hr, Container.wasKilled_timeless]
    show Same sc (Agree (Hand sc)) (if c.wasKilled = true then _ else _ : Job _).run
      (if c'.wasKilled = true then _ else _ : Job _).run
    rw [hkilled]
    split
    · refine .done ⟨rfl, fun other hother => ?_⟩
      cases hother
      exact hid
    · exact hrecord

theorem same_handle {e : EngineEvent} (h : e.In sc) :
    Same sc (Agree (Hand sc)) (handle e).run (handle e).run := by
  cases e with
  | container e => exact same_handleContainer h
  | task id t =>
    refine Same.bindJob (same_record h.1 fun _ _ => rfl) fun change _ hchange => ?_
    subst hchange
    cases change with
    | none => exact .done ⟨rfl, nofun⟩
    | some change => exact same_place h.1 h.2
  | missing id => exact same_handleMissing h

theorem same_finalizeRecord (hid : sc.ids id = true) (hc : c.timeless = c'.timeless) :
    Same sc (Agree Eq) (finalizeRecord id c).run (finalizeRecord id c').run := by
  refine Same.bindJob (same_record hid fun _ _ => rfl) fun _ _ _ => ?_
  refine .finalizer hc fun answer => ?_
  cases answer with
  | error causes => exact Same.bindJob (same_record hid fun _ _ => rfl) fun _ _ _ => .done rfl
  | ok paths =>
    have hupdate : Same sc (Agree Likeness)
        (Job.update id fun c => { c with logPaths := c.logPaths ++ paths }).run
        (Job.update id fun c => { c with logPaths := c.logPaths ++ paths }).run :=
      same_update hid (fun _ _ h => congrArg (fun c : Container =>
        { c with logPaths := c.logPaths ++ paths }) h) (fun _ => rfl) fun _ hc => hc
    refine Same.bindJob hupdate fun kept kept' hkept => ?_
    -- what the terminal entry says is told from the record as it is by then
    have hstatus : kept.terminalStatus = kept'.terminalStatus := by
      rw [← Container.terminalStatus_timeless, hkept, Container.terminalStatus_timeless]
    have hcode : kept.exitCode? = kept'.exitCode? := by
      rw [← Container.exitCode?_timeless, hkept, Container.exitCode?_timeless]
    rw [hstatus, hcode]
    exact Same.bindJob (same_record hid fun _ _ => rfl) fun _ _ _ => .done rfl

theorem same_need (hid : sc.ids id = true) :
    Same sc (Agree Likeness) (Job.need id).run (Job.need id).run := by
  refine .get hid fun r r' hr => ?_
  rcases r with _ | c <;> rcases r' with _ | c'
  · exact .done rfl
  · cases hr
  · cases hr
  · exact .done (Option.some.inj hr)

theorem same_locked {α : Type} {V : α → α → Prop} {job job' : Job α}
    (h : Same sc (Agree V) job.run job'.run) :
    Same sc (Agree V) (Job.locked id job).run (Job.locked id job').run := by
  refine .lock ?_
  show Same sc (Agree V) (job.run.bind _) (job'.run.bind _)
  refine Same.bind h fun r r' hr => ?_
  exact .unlock (.done hr)

theorem same_finalize (hid : sc.ids id = true) :
    Same sc (Agree Eq) (finalize id).run (finalize id).run := by
  refine same_locked (Same.bindJob (same_need hid) fun c c' hc => ?_)
  have hfin : c.isFinalized = c'.isFinalized :=
    congrArg Status.isTerminal (Container.status_alike hc)
  rw [hfin]
  cases c'.isFinalized with
  | true => exact .done rfl
  | false =>
    refine Same.bindJob (same_finalizeRecord hid hc) fun status _ hstatus => .done ?_
    exact congrArg some hstatus

/-- Processing an event is the same as itself, whatever the clock shows. -/
theorem same_process {e : EngineEvent} (h : e.In sc) :
    Same sc (Agree Eq) (process e).run (process e).run := by
  refine Same.bindJob (same_handle h) fun found _ hfound => ?_
  obtain ⟨rfl, hids⟩ := hfound
  cases found with
  | none => exact .done rfl
  | some id => exact same_finalize (hids id rfl)

/-! ## Deliveries -/

end Tracker

/-- An event, and the clock by which it is processed. -/
structure Delivery (σ : Type) where
  event : EngineEvent
  now : σ → Instant

namespace Tracker

variable {σ : Type}

/-- The world after some events were processed one after another. -/
def deliver (s : Surroundings σ) : List (Delivery σ) → World σ → World σ
  | [], w => w
  | d :: rest, w => deliver s rest ((process d.event).run.run (s.timed d.now) w).2

/-- The records that the finalizer is called for meanwhile, in order. -/
def deliveryCalls (s : Surroundings σ) : List (Delivery σ) → World σ → List Container
  | [], _ => []
  | d :: rest, w =>
    (process d.event).run.calls (s.timed d.now) w ++
      deliveryCalls s rest ((process d.event).run.run (s.timed d.now) w).2

theorem deliver_append (s : Surroundings σ) (early late : List (Delivery σ)) (w : World σ) :
    deliver s (early ++ late) w = deliver s late (deliver s early w) := by
  induction early generalizing w with
  | nil => rfl
  | cons d rest ih => exact ih _

end Tracker

end Mooring
