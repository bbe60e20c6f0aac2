import Mooring.Proofs.Store.Growth

set_option autoImplicit false

/-!
# One more record

A store to which one record was added (`Adds`): it stands under the identifier that was next, in its
place among the others, its identifiers of the engine lead to it, and nothing else is changed.
Inserting a record adds it if no record has the next identifier, and changing it afterwards leaves
the store one to which the changed record was added.

In an opened store no record has the next identifier, unless one has the last (`isAhead_of_openIn`).
-/

namespace Mooring.Store

/-- Whether a record stands between those before it and those after it. -/
structure Divides (c : Container) (front rest : List Container) : Prop where
  before : ∀ d ∈ front, d.databaseId < c.databaseId
  after : ∀ d ∈ rest.head?, c.databaseId < d.databaseId

/-- Whether a store is another one with one more record. -/
structure Adds (s : Store) (c : Container) (t : Store) : Prop where
  databaseId : c.databaseId = s.nextId
  records : ∃ front rest, s.records = front ++ rest ∧ t.records = front ++ c :: rest ∧
    Divides c front rest
  nextId : t.nextId = nextAfter s.nextId
  find? : ∀ name, t.find? name = if name ∈ c.externalIds then some c.databaseId else s.find? name

variable {s t : Store} {c d : Container}

/-! ## Places -/

/-- A record whose identifier no other has is put between two others. -/
theorem exists_place {rs : List Container} (h : ∀ d ∈ rs, d.databaseId ≠ c.databaseId) :
    ∃ front rest, rs = front ++ rest ∧ place c rs = front ++ c :: rest ∧ Divides c front rest := by
  induction rs with
  | nil => exact ⟨[], [], rfl, rfl, List.forall_mem_nil _, by simp⟩
  | cons d rest ih =>
    obtain ⟨hd, hrest⟩ := List.forall_mem_cons.1 h
    rw [place, if_neg (Ne.symm hd)]
    by_cases hlt : c.databaseId < d.databaseId
    · rw [if_pos hlt]
      exact ⟨[], d :: rest, rfl, rfl, List.forall_mem_nil _, by simpa using hlt⟩
    · obtain ⟨front, rest, rfl, hplace, hdivides⟩ := ih hrest
      rw [if_neg hlt, hplace]
      refine ⟨d :: front, rest, rfl, rfl, ?_, hdivides.after⟩
      exact List.forall_mem_cons.2 ⟨by omega, hdivides.before⟩

/-- A record with the same identifier takes the place. -/
theorem Divides.place {front rest : List Container} (h : Divides c front rest)
    (hid : d.databaseId = c.databaseId) :
    place d (front ++ c :: rest) = front ++ d :: rest := by
  obtain ⟨hbefore, -⟩ := h
  induction front with
  | nil => exact if_pos hid
  | cons e front ih =>
    obtain ⟨he, hfront⟩ := List.forall_mem_cons.1 hbefore
    rw [List.cons_append, Store.place, if_neg (by omega), if_neg (by omega), ih hfront,
      List.cons_append]

theorem Divides.congr {front rest : List Container} (h : Divides c front rest)
    (hid : d.databaseId = c.databaseId) : Divides d front rest := by
  refine ⟨fun e he => ?_, fun e he => ?_⟩
  · rw [hid]
    exact h.before e he
  · rw [hid]
    exact h.after e he

/-! ## The added record -/

/-- A record that is put under the next identifier is added, if no record has it. -/
theorem adds_insert (hfree : s.get? s.nextId = none) (c : Container) :
    s.Adds (s.numbered c) ((s.skipped.indexed (s.numbered c)).put (s.numbered c)) where
  databaseId := rfl
  records := by
    refine exists_place fun d hd => ?_
    show d.databaseId ≠ s.nextId
    simpa using List.find?_eq_none.1 hfree d hd
  nextId := rfl
  find? := find?_indexed s.skipped (s.numbered c)

namespace Adds

/-- The added record is there under its identifier. -/
theorem get? (h : s.Adds c t) : t.get? s.nextId = some c := by
  obtain ⟨front, rest, -, hrecords, hdivides⟩ := h.records
  have hfront : front.find? (fun d => d.databaseId = s.nextId) = none := by
    refine List.find?_eq_none.2 fun d hd hid => ?_
    have hlt := hdivides.before d hd
    have hnext : d.databaseId = s.nextId := of_decide_eq_true hid
    rw [h.databaseId] at hlt
    omega
  unfold Store.get?
  rw [hrecords, List.find?_append, hfront, Option.none_or]
  exact List.find?_cons_of_pos (decide_eq_true h.databaseId)

theorem records_put (h : s.Adds c t) (hid : d.databaseId = c.databaseId) :
    ∃ front rest, s.records = front ++ rest ∧ (t.put d).records = front ++ d :: rest ∧
      Divides d front rest := by
  obtain ⟨front, rest, hbefore, hrecords, hdivides⟩ := h.records
  refine ⟨front, rest, hbefore, ?_, hdivides.congr hid⟩
  show Store.place d t.records = _
  rw [hrecords, hdivides.place hid]

/-- Another record in the place of the added one, of which it keeps the identifiers. -/
theorem put (h : s.Adds c t) (hid : d.databaseId = c.databaseId)
    (hexternal : ∀ name ∈ c.externalIds, name ∈ d.externalIds) :
    s.Adds d ((t.indexed d).put d) where
  databaseId := hid.trans h.databaseId
  records := h.records_put hid
  nextId := h.nextId
  find? name := by
    show (t.indexed d).find? name = _
    rw [find?_indexed, h.find?]
    by_cases hname : name ∈ d.externalIds
    · rw [if_pos hname, if_pos hname]
    · rw [if_neg hname, if_neg hname, if_neg fun hc => hname (hexternal name hc)]

/-- The same where the identifiers of the engine stay as they are. -/
theorem put_of_eq (h : s.Adds c t) (hid : d.databaseId = c.databaseId)
    (hexternal : d.externalIds = c.externalIds) : s.Adds d (t.put d) where
  databaseId := hid.trans h.databaseId
  records := h.records_put hid
  nextId := h.nextId
  find? name := by
    rw [hid, hexternal]
    exact h.find? name

end Adds

/-! ## Stores in which the next identifier is free -/

/-- Whether every record has an identifier before the next one. -/
def IsAhead (s : Store) : Prop :=
  ∀ c ∈ s.records, c.databaseId < s.nextId

theorem IsAhead.get?_nextId (h : s.IsAhead) : s.get? s.nextId = none := by
  refine List.find?_eq_none.2 fun c hc heq => ?_
  have hlt := h c hc
  have hid : c.databaseId = s.nextId := of_decide_eq_true heq
  omega

/-- The next identifier of a store that was opened is beyond those of the records, unless one has
the last identifier. -/
theorem isAhead_of_openIn [FileTree.Listing] {dir : String} {files opened : FileTree}
    (h : openIn dir files = (.ok s, opened)) (hlast : s.get? lastId = none) : s.IsAhead := by
  obtain ⟨-, -, rfl⟩ := openIn_eq_ok_iff.1 h
  intro c hc
  exact databaseId_lt_followingId (ordered_ofLoaded _) hlast hc

/-- It stays beyond them when a record is added, unless that has the last identifier. -/
theorem Adds.isAhead (h : s.Adds c t) (hs : s.IsAhead) (hne : s.nextId ≠ lastId) : t.IsAhead := by
  obtain ⟨front, rest, hbefore, hrecords, -⟩ := h.records
  intro d hd
  rw [h.nextId, nextAfter_of_ne hne]
  rw [hrecords, List.mem_append, List.mem_cons, or_left_comm, ← List.mem_append, ← hbefore] at hd
  rcases hd with rfl | hold
  · rw [h.databaseId]
    omega
  · have hlt := hs d hold
    omega

/-- It is then added behind the others. -/
theorem Adds.records_of_isAhead (h : s.Adds c t) (hs : s.IsAhead) :
    t.records = s.records ++ [c] := by
  obtain ⟨front, rest, hbefore, hrecords, hdivides⟩ := h.records
  cases rest with
  | nil => rw [hrecords, hbefore, List.append_nil]
  | cons d rest =>
    have hlt := hs d (by simp [hbefore])
    have hgt := hdivides.after d rfl
    rw [h.databaseId] at hgt
    omega

end Mooring.Store
