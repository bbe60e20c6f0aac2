import Mooring.Proofs.Store.Lookup
import Mooring.Store.Directory

set_option autoImplicit false

/-!
# Records in order

The records of a store stand in the order of their identifiers, each identifier once. Putting a
record keeps the order (`Ordered.put`), so that a store is known by which records it has
(`Ordered.records_eq`). The identifier that follows those of the records is the one after the
greatest (`followingId_cases`).
-/

namespace Mooring.Store

variable {s t : Store} {c d : Container} {rs : List Container} {id : Int}

/-- Whether the records stand in the order of their identifiers. -/
def Ordered (s : Store) : Prop :=
  s.records.Pairwise fun c d => c.databaseId < d.databaseId

theorem ordered_empty : empty.Ordered :=
  List.Pairwise.nil

theorem Ordered.congr (h : s.Ordered) (hrecords : t.records = s.records) : t.Ordered := by
  unfold Ordered
  rw [hrecords]
  exact h

/-! ## Putting a record -/

theorem mem_place (h : d ∈ place c rs) : d = c ∨ d ∈ rs := by
  induction rs with
  | nil => exact .inl (List.mem_singleton.1 h)
  | cons e rest ih =>
    rw [place] at h
    split at h
    · rcases List.mem_cons.1 h with rfl | hrest
      · exact .inl rfl
      · exact .inr (List.mem_cons_of_mem e hrest)
    · split at h
      · exact List.mem_cons.1 h
      · rcases List.mem_cons.1 h with rfl | hrest
        · exact .inr List.mem_cons_self
        · exact (ih hrest).imp_right (List.mem_cons_of_mem e)

theorem pairwise_place (h : rs.Pairwise fun c d => c.databaseId < d.databaseId) :
    (place c rs).Pairwise fun c d => c.databaseId < d.databaseId := by
  induction rs with
  | nil => exact List.pairwise_singleton _ _
  | cons e rest ih =>
    obtain ⟨hfirst, hrest⟩ := List.pairwise_cons.1 h
    rw [place]
    split
    · next heq =>
      -- the record takes the place of one with its identifier
      refine List.pairwise_cons.2 ⟨fun d hd => ?_, hrest⟩
      rw [heq]
      exact hfirst d hd
    · next hne =>
      split
      · next hlt =>
        refine List.pairwise_cons.2 ⟨fun d hd => ?_, h⟩
        rcases List.mem_cons.1 hd with rfl | hd
        · exact hlt
        · exact Int.lt_trans hlt (hfirst d hd)
      · next hge =>
        refine List.pairwise_cons.2 ⟨fun d hd => ?_, ih hrest⟩
        rcases mem_place hd with rfl | hd
        · omega
        · exact hfirst d hd

/-- Putting a record keeps the order. -/
theorem Ordered.put (h : s.Ordered) (c : Container) : (s.put c).Ordered :=
  pairwise_place h

theorem Ordered.load (h : s.Ordered) (c : Container) : (s.load c).Ordered :=
  pairwise_place h

/-! ## Look-up -/

theorem mem_of_get? (h : s.get? id = some c) : c ∈ s.records :=
  List.mem_of_find?_eq_some h

theorem find?_of_pairwise (h : rs.Pairwise fun c d => c.databaseId < d.databaseId) (hc : c ∈ rs) :
    (rs.find? fun d => d.databaseId = c.databaseId) = some c := by
  induction rs with
  | nil => cases hc
  | cons e rest ih =>
    obtain ⟨hfirst, hrest⟩ := List.pairwise_cons.1 h
    rcases List.mem_cons.1 hc with rfl | hc
    · simp
    · have hlt : e.databaseId < c.databaseId := hfirst c hc
      rw [List.find?_cons_of_neg (by simp; omega)]
      exact ih hrest hc

/-- Every record is found under its identifier. -/
theorem Ordered.get?_of_mem (h : s.Ordered) (hc : c ∈ s.records) :
    s.get? c.databaseId = some c :=
  find?_of_pairwise h hc

theorem Ordered.nodup (h : s.Ordered) : s.records.Nodup := by
  refine List.Pairwise.imp (fun {c d} hlt => ?_) h
  rintro rfl
  omega

/-- Records with one identifier are one record. -/
theorem Ordered.eq_of_databaseId (h : s.Ordered) (hc : c ∈ s.records) (hd : d ∈ s.records)
    (hid : c.databaseId = d.databaseId) : c = d := by
  have hget : s.get? d.databaseId = some c := hid ▸ h.get?_of_mem hc
  exact Option.some.inj (hget.symm.trans (h.get?_of_mem hd))

/-- A record that is put leaves those with other identifiers, and no others. -/
theorem Ordered.mem_put_iff (h : s.Ordered) :
    d ∈ (s.put c).records ↔ d = c ∨ d ∈ s.records ∧ d.databaseId ≠ c.databaseId := by
  have hmem : c ∈ (s.put c).records := mem_of_get? (get?_put_of_eq rfl)
  constructor
  · intro hd
    by_cases hid : d.databaseId = c.databaseId
    · exact .inl ((h.put c).eq_of_databaseId hd hmem hid)
    · exact (mem_place hd).imp_right fun hd => ⟨hd, hid⟩
  · rintro (rfl | ⟨hd, hid⟩)
    · exact hmem
    · exact mem_of_get? ((get?_put_of_ne hid.symm).trans (h.get?_of_mem hd))

/-- Records in order are known by which they are. -/
theorem Ordered.records_eq (hs : s.Ordered) (ht : t.Ordered)
    (h : ∀ c, c ∈ s.records ↔ c ∈ t.records) : s.records = t.records := by
  have hperm : s.records.Perm t.records := (List.perm_ext_iff_of_nodup hs.nodup ht.nodup).2 h
  refine List.Perm.eq_of_pairwise (fun c d _ _ hcd hdc => ?_) hs ht hperm
  omega

/-! ## The identifier that follows -/

theorem nextAfter_of_ne {id : Int} (h : id ≠ lastId) : nextAfter id = id + 1 :=
  if_neg h

/-- The identifier after the greatest, the first one where there is none. -/
def followingId (s : Store) : Int :=
  (s.greatestId?.map nextAfter).getD 1

/-- The identifier that follows is the first one, or the one after that of a record with none
beyond it. -/
theorem followingId_cases (h : s.Ordered) :
    (s.records = [] ∧ s.followingId = 1) ∨
    (∃ last ∈ s.records, (∀ c ∈ s.records, c.databaseId ≤ last.databaseId) ∧
      s.followingId = nextAfter last.databaseId) := by
  rcases List.eq_nil_or_concat s.records with hnil | ⟨front, last, hrecords⟩
  · refine .inl ⟨hnil, ?_⟩
    unfold followingId greatestId?
    rw [hnil]
    rfl
  · rw [List.concat_eq_append] at hrecords
    refine .inr ⟨last, by simp [hrecords], fun c hc => ?_, ?_⟩
    · unfold Ordered at h
      rw [hrecords] at h hc
      rcases List.mem_append.1 hc with hc | hc
      · exact Int.le_of_lt ((List.pairwise_append.1 h).2.2 c hc last List.mem_cons_self)
      · exact Int.le_of_eq (congrArg Container.databaseId (List.mem_singleton.1 hc))
    · unfold followingId greatestId?
      rw [hrecords, List.getLast?_concat]
      rfl

/-- The identifier that follows is beyond those of the records, unless one has the last. -/
theorem databaseId_lt_followingId (h : s.Ordered) (hlast : s.get? lastId = none)
    (hc : c ∈ s.records) : c.databaseId < s.followingId := by
  rcases followingId_cases h with ⟨hnil, -⟩ | ⟨last, hmem, hle, hfollowing⟩
  · rw [hnil] at hc
    cases hc
  · have hne : last.databaseId ≠ lastId := by
      intro heq
      have hget := h.get?_of_mem hmem
      rw [heq, hlast] at hget
      cases hget
    have hbefore := hle c hc
    rw [hfollowing, nextAfter_of_ne hne]
    omega

end Mooring.Store
