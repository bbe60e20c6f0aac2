import Mooring.Proofs.Store.Directory

set_option autoImplicit false

/-!
# What changes of the store leave

Changes that leave identifiers and histories alone lose no record and no entry (`Grows`), and after
any of them every identifier of the engine in the index still leads to a record (`Indexed`).
-/

namespace Mooring.Store

/-- Every record is still there, and its history is longer at most. -/
def Grows (s t : Store) : Prop :=
  ∀ id c, s.get? id = some c → ∃ d, t.get? id = some d ∧ c.history <+: d.history

/-- Whether every identifier of the engine leads to a record. -/
def Indexed (s : Store) : Prop :=
  ∀ external id, s.find? external = some id → (s.get? id).isSome = true

/-- Whether a change leaves the identifier and the history of a record alone. -/
def IsGentle (f : Container → Container) : Prop :=
  ∀ c, (f c).databaseId = c.databaseId ∧ (f c).history = c.history

variable {σ : Type} {shelf : Shelf σ} {s t u : Store} {disk : σ} {c : Container} {id : Int}

theorem Grows.refl (s : Store) : s.Grows s :=
  fun _ c hc => ⟨c, hc, List.prefix_rfl⟩

theorem Grows.trans (h : s.Grows t) (h' : t.Grows u) : s.Grows u := by
  intro id c hc
  obtain ⟨d, hd, hcd⟩ := h id c hc
  obtain ⟨e, he, hde⟩ := h' id d hd
  exact ⟨e, he, hcd.trans hde⟩

theorem Grows.isSome (h : s.Grows t) (hid : (s.get? id).isSome = true) :
    (t.get? id).isSome = true := by
  obtain ⟨c, hc⟩ := Option.isSome_iff_exists.1 hid
  obtain ⟨d, hd, -⟩ := h id c hc
  rw [hd]
  rfl

/-- What is recorded stays recorded. -/
theorem Grows.records (h : s.Grows t) {e : HistoryEntry} (hc : s.get? id = some c)
    (hrecords : c.records e = true) : ∃ d, t.get? id = some d ∧ d.records e = true := by
  obtain ⟨d, hd, more, hmore⟩ := h id c hc
  refine ⟨d, hd, ?_⟩
  unfold Container.records at hrecords ⊢
  rw [← hmore, List.any_append, hrecords, Bool.true_or]

theorem grows_put (hc : ∀ d, s.get? c.databaseId = some d → d.history <+: c.history) :
    s.Grows (s.put c) := by
  intro id d hd
  rw [get?_put]
  by_cases hid : c.databaseId = id
  · subst hid
    rw [if_pos rfl]
    exact ⟨c, rfl, hc d hd⟩
  · rw [if_neg hid]
    exact ⟨d, hd, List.prefix_rfl⟩

/-! ## The index -/

theorem get?_setAll_cases {index : OrderedMap Int} {pairs : List (String × Int)}
    {external : String} (h : (index.setAll pairs).get? external = some id) :
    (external, id) ∈ pairs ∨ index.get? external = some id := by
  unfold OrderedMap.setAll at h
  induction pairs generalizing index with
  | nil => exact .inr h
  | cons p rest ih =>
    rcases ih h with hrest | hset
    · exact .inl (List.mem_cons_of_mem _ hrest)
    · by_cases hp : external = p.1
      · rw [hp, OrderedMap.get?_set_self] at hset
        rw [hp, ← Option.some.inj hset]
        exact .inl List.mem_cons_self
      · rw [OrderedMap.get?_set_of_ne _ _ hp] at hset
        exact .inr hset

theorem find?_indexed_cases {external : String} (h : (s.indexed c).find? external = some id) :
    id = c.databaseId ∨ s.find? external = some id := by
  rcases get?_setAll_cases h with hpair | hindex
  · obtain ⟨_, -, heq⟩ := List.mem_map.1 hpair
    exact .inl (Prod.mk.inj heq).2.symm
  · exact .inr hindex

theorem get?_setAll_map (names : List String) (value : Int) (index : OrderedMap Int) (name : String) :
    (index.setAll (names.map fun n => (n, value))).get? name =
      if name ∈ names then some value else index.get? name := by
  unfold OrderedMap.setAll
  induction names generalizing index with
  | nil => rfl
  | cons n rest ih =>
    rw [List.map_cons, List.foldl_cons, ih]
    by_cases hrest : name ∈ rest
    · rw [if_pos hrest, if_pos (List.mem_cons_of_mem n hrest)]
    · rw [if_neg hrest]
      by_cases hn : name = n
      · rw [hn, OrderedMap.get?_set_self, if_pos List.mem_cons_self]
      · rw [OrderedMap.get?_set_of_ne _ _ hn,
          if_neg fun h => hrest ((List.mem_cons.1 h).resolve_left hn)]

/-- The identifiers of the engine that a record has lead to it, the others to where they did. -/
theorem find?_indexed (s : Store) (c : Container) (name : String) :
    (s.indexed c).find? name = if name ∈ c.externalIds then some c.databaseId else s.find? name :=
  get?_setAll_map c.externalIds c.databaseId s.index name

/-- A record that is put in its place is there for the identifiers that lead to it. -/
theorem Indexed.put (h : s.Indexed) (c : Container) : ((s.indexed c).put c).Indexed := by
  intro external id hid
  rw [get?_put]
  by_cases hc : c.databaseId = id
  · rw [if_pos hc]
    rfl
  · rw [if_neg hc]
    rcases find?_indexed_cases (show (s.indexed c).find? external = some id from hid) with rfl | hs
    · exact absurd rfl hc
    · exact h external id hs

theorem Indexed.grows (h : s.Indexed) (hst : s.Grows t) (hindex : t.index = s.index) :
    t.Indexed := by
  intro external id hid
  unfold find? at hid
  rw [hindex] at hid
  exact hst.isSome (h external id hid)

theorem indexed_empty : empty.Indexed := by
  intro external id hid
  cases hid

theorem Indexed.foldl_load (h : s.Indexed) (cs : List Container) : (cs.foldl load s).Indexed := by
  induction cs generalizing s with
  | nil => exact h
  | cons c rest ih => exact ih (h.put c)

/-- In an opened store every identifier of the engine leads to a record. -/
theorem indexed_of_openIn [FileTree.Listing] {dir : String} {files opened : FileTree}
    (h : openIn dir files = (.ok s, opened)) : s.Indexed := by
  obtain ⟨-, -, rfl⟩ := openIn_eq_ok_iff.1 h
  exact indexed_empty.foldl_load (recordsIn dir opened)

/-! ## Changes -/

theorem grows_update {f : Container → Container} (hf : IsGentle f) (id : Int) :
    s.Grows (s.update shelf id f disk).2.1 := by
  rcases store_update_cases shelf id s disk f with hr | ⟨c, hc, hr⟩
  · rw [hr]
    exact .refl s
  · rw [hr]
    refine grows_put (s := s.indexed (f c)) fun d hd => ?_
    have hsame : s.get? (f c).databaseId = some c := by
      rw [(hf c).1, databaseId_of_get? hc, hc]
    obtain rfl : c = d := Option.some.inj (hsame.symm.trans hd)
    exact ⟨[], by rw [List.append_nil, (hf c).2]⟩

theorem grows_append (id : Int) (e : HistoryEntry) : s.Grows (s.append shelf id e disk).2.1 := by
  rcases store_append_cases shelf id s disk e with hr | ⟨c, d, hc, hd, hr⟩
  · rw [hr]
    exact .refl s
  · rw [hr]
    refine grows_put fun b hb => ?_
    rw [Container.databaseId_of_append? hd, databaseId_of_get? hc, hc] at hb
    rw [← Option.some.inj hb, Container.history_of_append? hd]
    exact List.prefix_append ..

theorem Indexed.insert (h : s.Indexed) (c : Container) :
    (s.insert shelf c disk).2.1.Indexed := by
  rcases insert_cases shelf s disk c with ⟨-, hr⟩ | ⟨err, -, hr⟩
  · rw [hr]
    exact Indexed.put (s := s.skipped) h (s.numbered c)
  · rw [hr]
    exact h

theorem Indexed.update (h : s.Indexed) (id : Int) (f : Container → Container) :
    (s.update shelf id f disk).2.1.Indexed := by
  rcases store_update_cases shelf id s disk f with hr | ⟨c, -, hr⟩
  · rw [hr]
    exact h
  · rw [hr]
    exact h.put (f c)

theorem Indexed.append (h : s.Indexed) (id : Int) (e : HistoryEntry) :
    (s.append shelf id e disk).2.1.Indexed := by
  refine h.grows (grows_append id e) ?_
  rcases store_append_cases shelf id s disk e with hr | ⟨c, d, -, -, hr⟩
  · rw [hr]
  · rw [hr]
    rfl

end Mooring.Store
