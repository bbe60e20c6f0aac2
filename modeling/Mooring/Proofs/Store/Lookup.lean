import Mooring.Store.Basic

set_option autoImplicit false

/-!
# Looking up what was stored

What a change of the store does to the record of an identifier. `append_cases` and `update_cases`
list everything that the two changes can do, saves that fail included; everything else about them
follows from these lists and from look-up after `put`. `store_append_cases` and `store_update_cases`
are the lists for a reader of the store alone, to whom a refusal and a failure are the same.
-/

namespace Mooring

/-- Every save succeeds. -/
def Shelf.Saves {σ : Type} (shelf : Shelf σ) : Prop :=
  ∀ c disk, (shelf.save c disk).1 = .ok ()

theorem Shelf.none_saves {σ : Type} : (Shelf.none : Shelf σ).Saves :=
  fun _ _ => rfl

/-! ## Records keep their identifiers -/

namespace Container

@[simp] theorem databaseId_withStatus (c : Container) :
    c.withStatus.databaseId = c.databaseId := by
  unfold withStatus
  split <;> rfl

@[simp] theorem history_withStatus (c : Container) : c.withStatus.history = c.history := by
  unfold withStatus
  split <;> rfl

theorem append?_eq_some_iff {c d : Container} {e : HistoryEntry} :
    c.append? e = some d ↔
      c.records e = false ∧ d = { c with history := c.history ++ [e] }.withStatus := by
  unfold append?
  split
  · next h => simp [h]
  · next h => simp [h, eq_comm]

theorem databaseId_of_append? {c d : Container} {e : HistoryEntry} (h : c.append? e = some d) :
    d.databaseId = c.databaseId := by
  rw [(append?_eq_some_iff.1 h).2]
  simp

/-- An entry changes nothing in a record but its history and its status. -/
theorem eq_of_append? {c d : Container} {e : HistoryEntry} (h : c.append? e = some d) :
    d = { c with history := d.history, status := d.status, statusTime := d.statusTime } := by
  obtain ⟨-, rfl⟩ := append?_eq_some_iff.1 h
  unfold withStatus
  split <;> rfl

theorem externalIds_of_append? {c d : Container} {e : HistoryEntry} (h : c.append? e = some d) :
    d.externalIds = c.externalIds := by
  rw [eq_of_append? h]
  rfl

/-- A record has the reports that it had, and that of the entry. -/
theorem records_append? {c d : Container} {e : HistoryEntry} (h : c.append? e = some d)
    (f : HistoryEntry) : d.records f = (c.records f || e.sameEvent f) := by
  unfold records
  rw [history_of_append? h, List.any_append]
  exact congrArg (_ || ·) (Bool.or_false _)

/-- An entry without a time of the engine is never refused. -/
theorem records_of_externalTime {c : Container} {e : HistoryEntry} (h : e.externalTime = none) :
    c.records e = false := by
  unfold records
  rw [List.any_eq_false]
  intro d _
  unfold HistoryEntry.sameEvent
  rw [h]
  cases d.externalTime <;> simp

end Container

namespace Store

/-! ## Look-up after a record is put in its place -/

theorem databaseId_of_get? {s : Store} {id : Int} {c : Container} (h : s.get? id = some c) :
    c.databaseId = id := by
  have := List.find?_some h
  simpa using this

theorem find?_place (c : Container) (id : Int) (rs : List Container) :
    (place c rs).find? (fun d => d.databaseId = id) =
      if c.databaseId = id then some c else rs.find? fun d => d.databaseId = id := by
  induction rs with
  | nil => by_cases h : c.databaseId = id <;> simp [place, h]
  | cons d rest ih =>
    rw [place]
    split
    · next hd => by_cases h : d.databaseId = id <;> simp [hd, h]
    · next hd =>
      split
      · by_cases h : c.databaseId = id <;> simp [h]
      · by_cases hid : d.databaseId = id
        · -- the first record with the identifier is passed over, since it is not replaced
          have hne : c.databaseId ≠ id := fun h => hd (h.trans hid.symm)
          simp [hid, hne]
        · simp [hid, ih]

theorem get?_put (s : Store) (c : Container) (id : Int) :
    (s.put c).get? id = if c.databaseId = id then some c else s.get? id :=
  find?_place c id s.records

theorem get?_put_of_eq {s : Store} {c : Container} {id : Int} (h : c.databaseId = id) :
    (s.put c).get? id = some c := by
  rw [get?_put, if_pos h]

theorem get?_put_of_ne {s : Store} {c : Container} {id : Int} (h : c.databaseId ≠ id) :
    (s.put c).get? id = s.get? id := by
  rw [get?_put, if_neg h]

/-- A record stands in the store once it is put there with another entry. -/
theorem get?_put_of_append? {s : Store} {id : Int} {c d : Container} {e : HistoryEntry}
    (hc : s.get? id = some c) (hd : c.append? e = some d) : (s.put d).get? id = some d :=
  get?_put_of_eq ((Container.databaseId_of_append? hd).trans (databaseId_of_get? hc))

/-- A store in which a record has another entry is another store. -/
theorem put_ne_of_append? {s : Store} {id : Int} {c d : Container} {e : HistoryEntry}
    (hc : s.get? id = some c) (hd : c.append? e = some d) : s.put d ≠ s := by
  intro hsame
  have hget : (s.put d).get? id = some d := get?_put_of_append? hc hd
  rw [hsame, hc] at hget
  have hlength := congrArg List.length (Container.history_of_append? hd)
  rw [Option.some.inj hget] at hlength
  simp at hlength

/-! ## What a change can do -/

/-- A record under the next identifier. -/
def numbered (s : Store) (c : Container) : Container :=
  { c with databaseId := s.nextId }

/-- The store whose next identifier is used up. -/
def skipped (s : Store) : Store :=
  { s with nextId := nextAfter s.nextId }

section Changes

variable {σ : Type} (shelf : Shelf σ) (id : Int) (s : Store) (disk : σ)

/-- Adding a record saves it under the next identifier, or fails to save it; the identifier is used
up either way. -/
theorem insert_cases (c : Container) :
    ((shelf.save (s.numbered c) disk).1 = .ok () ∧
      insert shelf c s disk =
        (.ok s.nextId, (s.skipped.indexed (s.numbered c)).put (s.numbered c),
          (shelf.save (s.numbered c) disk).2)) ∨
    (∃ err, (shelf.save (s.numbered c) disk).1 = .error err ∧
      insert shelf c s disk = (.error err, s.skipped, (shelf.save (s.numbered c) disk).2)) := by
  cases hsave : shelf.save (s.numbered c) disk with
  | mk r disk' =>
    unfold numbered at hsave
    unfold insert
    simp only [hsave]
    cases r with
    | ok _ => exact .inl ⟨rfl, rfl⟩
    | error err => exact .inr ⟨err, rfl, rfl⟩

/-- Appending an entry finds no record, refuses the entry, saves the record with the entry, or fails
to save it. -/
theorem append_cases (e : HistoryEntry) :
    (s.get? id = none ∧ append shelf id e s disk = (.error (.notFound id), s, disk)) ∨
    (∃ c, s.get? id = some c ∧ c.append? e = none ∧
      append shelf id e s disk = (.ok none, s, disk)) ∨
    (∃ c d, s.get? id = some c ∧ c.append? e = some d ∧ (shelf.save d disk).1 = .ok () ∧
      append shelf id e s disk =
        (.ok (some ⟨c.status, d.status⟩), s.put d, (shelf.save d disk).2)) ∨
    (∃ c d err, s.get? id = some c ∧ c.append? e = some d ∧ (shelf.save d disk).1 = .error err ∧
      append shelf id e s disk = (.error err, s, (shelf.save d disk).2)) := by
  unfold append
  split
  · next hc => exact .inl ⟨hc, rfl⟩
  · next c hc =>
    apply Or.inr
    split
    · next hd => exact .inl ⟨c, hc, hd, rfl⟩
    · next d hd =>
      apply Or.inr
      split
      · next disk' hsave => exact .inl ⟨c, d, hc, hd, by rw [hsave], by rw [hsave]⟩
      · next err disk' hsave => exact .inr ⟨c, d, err, hc, hd, by rw [hsave], by rw [hsave]⟩

/-- Changing a record finds none, saves the changed record, or fails to save it. -/
theorem update_cases (f : Container → Container) :
    (s.get? id = none ∧ update shelf id f s disk = (.error (.notFound id), s, disk)) ∨
    (∃ c, s.get? id = some c ∧ (shelf.save (f c) disk).1 = .ok () ∧
      update shelf id f s disk =
        (.ok (), (s.indexed (f c)).put (f c), (shelf.save (f c) disk).2)) ∨
    (∃ c err, s.get? id = some c ∧ (shelf.save (f c) disk).1 = .error err ∧
      update shelf id f s disk = (.error err, s, (shelf.save (f c) disk).2)) := by
  unfold update
  split
  · next hc => exact .inl ⟨hc, rfl⟩
  · next c hc =>
    apply Or.inr
    split
    · next disk' hsave => exact .inl ⟨c, hc, by rw [hsave], by rw [hsave]⟩
    · next err disk' hsave => exact .inr ⟨c, err, hc, by rw [hsave], by rw [hsave]⟩

section Known

variable {id s} {c : Container}

/-- Appending an entry to a record refuses the entry, saves the record with it, or fails to save
it. -/
theorem append_cases_of_get? (hc : s.get? id = some c) (e : HistoryEntry) :
    (c.append? e = none ∧ append shelf id e s disk = (.ok none, s, disk)) ∨
    (∃ d, c.append? e = some d ∧ (shelf.save d disk).1 = .ok () ∧
      append shelf id e s disk =
        (.ok (some ⟨c.status, d.status⟩), s.put d, (shelf.save d disk).2)) ∨
    (∃ d err, c.append? e = some d ∧ (shelf.save d disk).1 = .error err ∧
      append shelf id e s disk = (.error err, s, (shelf.save d disk).2)) := by
  rcases append_cases shelf id s disk e with
    ⟨hnone, -⟩ | ⟨c', hc', hrefused⟩ | ⟨c', d, hc', hsaved⟩ | ⟨c', d, err, hc', hfailed⟩
  · rw [hc] at hnone
    cases hnone
  · obtain rfl : c = c' := Option.some.inj (hc.symm.trans hc')
    exact .inl hrefused
  · obtain rfl : c = c' := Option.some.inj (hc.symm.trans hc')
    exact .inr (.inl ⟨d, hsaved⟩)
  · obtain rfl : c = c' := Option.some.inj (hc.symm.trans hc')
    exact .inr (.inr ⟨d, err, hfailed⟩)

/-- Changing a record that is there saves the changed record, or fails to save it. -/
theorem update_cases_of_get? (hc : s.get? id = some c) (f : Container → Container) :
    ((shelf.save (f c) disk).1 = .ok () ∧
      update shelf id f s disk =
        (.ok (), (s.indexed (f c)).put (f c), (shelf.save (f c) disk).2)) ∨
    (∃ err, (shelf.save (f c) disk).1 = .error err ∧
      update shelf id f s disk = (.error err, s, (shelf.save (f c) disk).2)) := by
  rcases update_cases shelf id s disk f with
    ⟨hnone, -⟩ | ⟨c', hc', hsaved⟩ | ⟨c', err, hc', hfailed⟩
  · rw [hc] at hnone
    cases hnone
  · obtain rfl : c = c' := Option.some.inj (hc.symm.trans hc')
    exact .inl hsaved
  · obtain rfl : c = c' := Option.some.inj (hc.symm.trans hc')
    exact .inr ⟨err, hfailed⟩

end Known

/-- Appending an entry leaves the store alone, or puts the record with the entry there. -/
theorem store_append_cases (e : HistoryEntry) :
    (append shelf id e s disk).2.1 = s ∨
    (∃ c d, s.get? id = some c ∧ c.append? e = some d ∧
      (append shelf id e s disk).2.1 = s.put d) := by
  rcases append_cases shelf id s disk e with
    ⟨-, hr⟩ | ⟨c, -, -, hr⟩ | ⟨c, d, hc, hd, -, hr⟩ | ⟨c, d, err, -, -, -, hr⟩
  · exact .inl (by rw [hr])
  · exact .inl (by rw [hr])
  · exact .inr ⟨c, d, hc, hd, by rw [hr]⟩
  · exact .inl (by rw [hr])

/-- Changing a record leaves the store alone, or puts the changed record there. -/
theorem store_update_cases (f : Container → Container) :
    (update shelf id f s disk).2.1 = s ∨
    (∃ c, s.get? id = some c ∧
      (update shelf id f s disk).2.1 = (s.indexed (f c)).put (f c)) := by
  rcases update_cases shelf id s disk f with ⟨-, hr⟩ | ⟨c, hc, -, hr⟩ | ⟨c, err, -, -, hr⟩
  · exact .inl (by rw [hr])
  · exact .inr ⟨c, hc, by rw [hr]⟩
  · exact .inl (by rw [hr])

variable {id s}

theorem append_of_none (h : s.get? id = none) (e : HistoryEntry) :
    append shelf id e s disk = (.error (.notFound id), s, disk) := by
  unfold append
  rw [h]

theorem update_of_none (h : s.get? id = none) (f : Container → Container) :
    update shelf id f s disk = (.error (.notFound id), s, disk) := by
  unfold update
  rw [h]

/-- Appending to a record leaves the others alone. -/
theorem get?_append_of_ne (e : HistoryEntry) {other : Int} (h : other ≠ id) :
    (append shelf id e s disk).2.1.get? other = s.get? other := by
  rcases store_append_cases shelf id s disk e with hr | ⟨c, d, hc, hd, hr⟩
  · rw [hr]
  · have hid : d.databaseId = id :=
      (Container.databaseId_of_append? hd).trans (databaseId_of_get? hc)
    rw [hr]
    exact get?_put_of_ne fun hne => h (hne.symm.trans hid)

/-- Changing a record, but not its identifier, leaves the others alone. -/
theorem get?_update_of_ne {f : Container → Container} (hf : ∀ c, (f c).databaseId = c.databaseId)
    {other : Int} (h : other ≠ id) :
    (update shelf id f s disk).2.1.get? other = s.get? other := by
  rcases store_update_cases shelf id s disk f with hr | ⟨c, hc, hr⟩
  · rw [hr]
  · have hid : (f c).databaseId = id := (hf c).trans (databaseId_of_get? hc)
    rw [hr]
    exact get?_put_of_ne fun hne => h (hne.symm.trans hid)

variable {shelf}

/-- Where saves succeed, an added record stands in the store under the next identifier. -/
theorem insert_of_saves (hs : shelf.Saves) (c : Container) :
    insert shelf c s disk =
      (.ok s.nextId, (s.skipped.indexed (s.numbered c)).put (s.numbered c),
        (shelf.save (s.numbered c) disk).2) := by
  rcases insert_cases shelf s disk c with ⟨-, hr⟩ | ⟨err, hfail, -⟩
  · exact hr
  · rw [hs (s.numbered c) disk] at hfail
    cases hfail

/-- Where saves succeed, an entry is refused or the record with it stands in the store. -/
theorem append_of_saves (hs : shelf.Saves) {c : Container} (hc : s.get? id = some c)
    (e : HistoryEntry) :
    (c.append? e = none ∧ append shelf id e s disk = (.ok none, s, disk)) ∨
    (∃ d, c.append? e = some d ∧ append shelf id e s disk =
      (.ok (some ⟨c.status, d.status⟩), s.put d, (shelf.save d disk).2)) := by
  rcases append_cases_of_get? shelf disk hc e with
    hrefused | ⟨d, hd, -, hr⟩ | ⟨d, err, -, hfail, -⟩
  · exact .inl hrefused
  · exact .inr ⟨d, hd, hr⟩
  · rw [hs d disk] at hfail
    cases hfail

/-- Where saves succeed, the changed record stands in the store. -/
theorem update_of_saves (hs : shelf.Saves) {c : Container} (hc : s.get? id = some c)
    (f : Container → Container) :
    update shelf id f s disk =
      (.ok (), (s.indexed (f c)).put (f c), (shelf.save (f c) disk).2) := by
  rcases update_cases_of_get? shelf disk hc f with ⟨-, hr⟩ | ⟨err, hfail, -⟩
  · exact hr
  · rw [hs (f c) disk] at hfail
    cases hfail

end Changes

end Store

end Mooring
