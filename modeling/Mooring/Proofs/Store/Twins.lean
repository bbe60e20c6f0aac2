import Mooring.Proofs.Container.Timeless
import Mooring.Proofs.Files.Related
import Mooring.Store.Directory

set_option autoImplicit false

/-!
# Stores that differ in times alone

Twins are records that are the same up to recording times, with an environment of a given kind. Two
stores are twins if they hold twins in the same order and are the same otherwise. A change of twins
succeeds in both stores or in neither and leaves twins, whether or not the records can be saved, as
long as the shelves do not tell twins apart; those of a directory do not (`matches_directoryShelf`).
-/

namespace Mooring

/-- Whether two answers and what comes with them are related. -/
structure Paired {α β σ τ : Type} (V : α → β → Prop) (R : σ → τ → Prop) (x : α × σ) (y : β × τ) :
    Prop where
  answer : V x.1 y.1
  rest : R x.2 y.2

/-- Two saves that are answered alike fail alike or succeed. -/
theorem Paired.cases_save {σ : Type} {R : σ → σ → Prop} {x x' : Except StoreError Unit × σ}
    (h : Paired Eq R x x') :
    (∃ e disk disk', x = (.error e, disk) ∧ x' = (.error e, disk') ∧ R disk disk') ∨
    (∃ disk disk', x = (.ok (), disk) ∧ x' = (.ok (), disk') ∧ R disk disk') := by
  obtain ⟨r, disk⟩ := x
  obtain ⟨r', disk'⟩ := x'
  obtain ⟨rfl, hrest⟩ := h
  cases r with
  | error e => exact .inl ⟨e, disk, disk', rfl, rfl, hrest⟩
  | ok answer => exact .inr ⟨disk, disk', rfl, rfl, hrest⟩

section

variable {E : OrderedMap String → Prop} {σ : Type} {R : σ → σ → Prop} {c c' d d' : Container}
  {cs cs' : List Container} {disk disk' : σ} {shelf shelf' : Shelf σ}

/-! ## Records -/

namespace Container

/-- Whether two records are the same up to times, and have an environment of a kind. -/
structure Twins (E : OrderedMap String → Prop) (c d : Container) : Prop where
  alike : c.timeless = d.timeless
  environment : E c.environment

/-- Twins that get the same entry up to its time stay twins. -/
theorem Twins.append? (h : c.Twins E c') {e e' : HistoryEntry} (he : e.timeless = e'.timeless) :
    Option.Rel (Twins E) (c.append? e) (c'.append? e') := by
  have halike := append?_alike h.alike he
  cases hd : c.append? e <;> cases hd' : c'.append? e' <;> rw [hd, hd'] at halike
  · exact .none
  · cases halike
  · cases halike
  · have henvironment := h.environment
    refine .some ⟨Option.some.inj halike, ?_⟩
    rw [eq_of_append? hd]
    exact henvironment

end Container

/-- Whether two shelves do not tell twins apart. -/
def Shelf.Matches (E : OrderedMap String → Prop) (R : σ → σ → Prop) (shelf shelf' : Shelf σ) : Prop :=
  ∀ c c' disk disk', c.Twins E c' → R disk disk' →
    Paired Eq R (shelf.save c disk) (shelf'.save c' disk')

/-! ## Stores -/

namespace Store

/-- Whether two stores hold twins in the same order, and are the same otherwise. -/
structure Twins (E : OrderedMap String → Prop) (store store' : Store) : Prop where
  records : List.Forall₂ (Container.Twins E) store.records store'.records
  index : store.index = store'.index
  nextId : store.nextId = store'.nextId

variable {store store' : Store}

theorem twins_find? (h : List.Forall₂ (Container.Twins E) cs cs') (id : Int) :
    Option.Rel (Container.Twins E) (cs.find? fun c => c.databaseId = id)
      (cs'.find? fun c => c.databaseId = id) := by
  induction h with
  | nil => exact .none
  | @cons c c' rest rest' hc _ ih =>
    rw [List.find?_cons, List.find?_cons, Container.databaseId_alike hc.alike]
    cases decide (c'.databaseId = id) with
    | true => exact .some hc
    | false => exact ih

theorem Twins.get? (h : store.Twins E store') (id : Int) :
    Option.Rel (Container.Twins E) (store.get? id) (store'.get? id) :=
  twins_find? h.records id

theorem twins_place (h : List.Forall₂ (Container.Twins E) cs cs') (hc : c.Twins E c') :
    List.Forall₂ (Container.Twins E) (place c cs) (place c' cs') := by
  induction h with
  | nil => exact .cons hc .nil
  | @cons d d' rest rest' hd hrest ih =>
    unfold place
    rw [Container.databaseId_alike hc.alike, Container.databaseId_alike hd.alike]
    split
    · exact .cons hc hrest
    · split
      · exact .cons hc (.cons hd hrest)
      · exact .cons hd ih

theorem Twins.put (h : store.Twins E store') (hc : c.Twins E c') :
    (store.put c).Twins E (store'.put c') :=
  ⟨twins_place h.records hc, h.index, h.nextId⟩

theorem Twins.indexed (h : store.Twins E store') (hc : c.Twins E c') :
    (store.indexed c).Twins E (store'.indexed c') := by
  refine ⟨h.records, ?_, h.nextId⟩
  unfold Store.indexed
  rw [h.index, Container.externalIds_alike hc.alike, Container.databaseId_alike hc.alike]

/-- The store without recording times. -/
def timeless (store : Store) : Store :=
  { store with records := store.records.map Container.timeless }

theorem Twins.timeless (h : store.Twins E store') : store.timeless = store'.timeless := by
  have hrecords : store.records.map Container.timeless = store'.records.map Container.timeless := by
    rw [← List.forall₂_eq_eq_eq, List.forall₂_map_left_iff, List.forall₂_map_right_iff]
    exact h.records.imp fun _ _ hc => hc.alike
  unfold Store.timeless
  rw [hrecords, h.index, h.nextId]

theorem twins_environments (h : List.Forall₂ (Container.Twins E) cs cs') :
    ∀ c ∈ cs, E c.environment := by
  induction h with
  | nil => exact List.forall_mem_nil _
  | cons hc _ ih => exact List.forall_mem_cons.2 ⟨hc.environment, ih⟩

theorem Twins.environments (h : store.Twins E store') : ∀ c ∈ store.records, E c.environment :=
  twins_environments h.records

variable (hshelf : shelf.Matches E R shelf') (h : store.Twins E store') (hdisk : R disk disk')
include hshelf h hdisk

theorem Twins.insert (hc : c.Twins E c') :
    Paired Eq (Paired (Store.Twins E) R) (store.insert shelf c disk)
      (store'.insert shelf' c' disk') := by
  have hnumbered : Container.Twins E { c with databaseId := store.nextId }
      { c' with databaseId := store'.nextId } := by
    rw [h.nextId]
    exact ⟨congrArg (fun d : Container => { d with databaseId := store'.nextId }) hc.alike,
      hc.environment⟩
  have hskipped : Store.Twins E { store with nextId := nextAfter store.nextId }
      { store' with nextId := nextAfter store'.nextId } :=
    ⟨h.records, h.index, congrArg nextAfter h.nextId⟩
  unfold Store.insert
  dsimp only
  rcases (hshelf _ _ _ _ hnumbered hdisk).cases_save with
    ⟨e, disk₁, disk₁', hx, hx', hrest⟩ | ⟨disk₁, disk₁', hx, hx', hrest⟩ <;> rw [hx, hx']
  · exact ⟨rfl, hskipped, hrest⟩
  · exact ⟨congrArg Except.ok h.nextId, (hskipped.indexed hnumbered).put hnumbered, hrest⟩

theorem Twins.update (id : Int) {f : Container → Container}
    (hf : ∀ c c', c.Twins E c' → (f c).Twins E (f c')) :
    Paired Eq (Paired (Store.Twins E) R) (store.update shelf id f disk)
      (store'.update shelf' id f disk') := by
  have hget := h.get? id
  unfold Store.update
  generalize store.get? id = o, store'.get? id = o' at hget ⊢
  cases hget with
  | none => exact ⟨rfl, h, hdisk⟩
  | @some c c' hc =>
    have hchanged := hf c c' hc
    dsimp only
    rcases (hshelf _ _ _ _ hchanged hdisk).cases_save with
      ⟨e, disk₁, disk₁', hx, hx', hrest⟩ | ⟨disk₁, disk₁', hx, hx', hrest⟩ <;> rw [hx, hx']
    · exact ⟨rfl, h, hrest⟩
    · exact ⟨rfl, (h.indexed hchanged).put hchanged, hrest⟩

theorem Twins.append (id : Int) {e e' : HistoryEntry} (he : e.timeless = e'.timeless) :
    Paired Eq (Paired (Store.Twins E) R) (store.append shelf id e disk)
      (store'.append shelf' id e' disk') := by
  have hget := h.get? id
  unfold Store.append
  generalize store.get? id = o, store'.get? id = o' at hget ⊢
  cases hget with
  | none => exact ⟨rfl, h, hdisk⟩
  | @some c c' hc =>
    have hgrown := hc.append? he
    dsimp only
    generalize c.append? e = o, c'.append? e' = o' at hgrown ⊢
    cases hgrown with
    | none => exact ⟨rfl, h, hdisk⟩
    | @some d d' hd =>
      dsimp only
      rw [Container.status_alike hc.alike, Container.status_alike hd.alike]
      rcases (hshelf _ _ _ _ hd hdisk).cases_save with
        ⟨e, disk₁, disk₁', hx, hx', hrest⟩ | ⟨disk₁, disk₁', hx, hx', hrest⟩ <;> rw [hx, hx']
      · exact ⟨rfl, h, hrest⟩
      · exact ⟨rfl, h.put hd, hrest⟩

end Store

/-! ## Files -/

/-- Whether two texts are one that was there before, or those of twins. -/
inductive Written (E : OrderedMap String → Prop) (Before : String → Prop) : String → String → Prop
  | before {text : String} (there : Before text) : Written E Before text text
  | twins {c c' : Container} (twins : c.Twins E c') : Written E Before c.text c'.text

/-- Whether two texts are the same, or those of records that are the same up to times. -/
def SameText (text text' : String) : Prop :=
  text = text' ∨
    ∃ c c' : Container, text = c.text ∧ text' = c'.text ∧ c.timeless = c'.timeless

theorem Written.sameText {Before : String → Prop} {text text' : String}
    (h : Written E Before text text') : SameText text text' := by
  cases h with
  | before there => exact .inl rfl
  | twins h => exact .inr ⟨_, _, rfl, rfl, h.alike⟩

/-- In a directory, twins are saved alike. -/
theorem Store.matches_directoryShelf (dir : String) (Before : String → Prop) :
    (directoryShelf dir).Matches E (FileTree.Related (Written E Before)) (directoryShelf dir) := by
  intro c c' files files' hc hfiles
  unfold directoryShelf saveIn
  dsimp only
  rw [Container.databaseId_alike hc.alike]
  have hwrite := hfiles.write? (draftPath dir c'.databaseId) (Written.twins hc)
  generalize files.write? _ c.text = o, files'.write? _ c'.text = o' at hwrite ⊢
  cases hwrite with
  | none => exact ⟨rfl, hfiles⟩
  | @some files₁ files₁' hdraft =>
    have hmove := hdraft.rename? (draftPath dir c'.databaseId) (recordPath dir c'.databaseId)
    dsimp only
    generalize files₁.rename? _ _ = o, files₁'.rename? _ _ = o' at hmove ⊢
    cases hmove with
    | none => exact ⟨rfl, hdraft⟩
    | some hmoved => exact ⟨rfl, hmoved⟩

end

end Mooring
