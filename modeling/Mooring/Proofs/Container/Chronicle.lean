import Mooring.Proofs.Container.Ending

set_option autoImplicit false

/-!
# Records as chronicles of their entries

A record is offered entries one after another and refuses those that report what it has recorded
already. Whatever it is offered, its status is the one that its history leads to, no report of the
engine stands in it twice, and once it has come to its end only an entry of this system that names a
status moves it (`Container.offered_isChronicle`).
-/

namespace Mooring

/-! ## Entries and the statuses they name -/

theorem Status.name_of_ofName? {name : String} {s : Status} (h : ofName? name = some s) :
    s.name = name := by
  obtain ⟨before, after, hsplit, -⟩ := List.lookup_eq_some_iff.1 h
  have hmem : (name, s) ∈ names := by
    rw [hsplit]
    exact List.mem_append_right _ List.mem_cons_self
  obtain ⟨t, -, ht⟩ := List.mem_map.1 hmem
  cases ht
  rfl

/-- Whether two entries have the status and the time of one report of the engine. -/
def HistoryEntry.IsSameReport (f e : HistoryEntry) : Prop :=
  f.status = e.status ∧ f.externalTime = e.externalTime ∧ f.externalTime ≠ none

theorem HistoryEntry.sameEvent_iff {f e : HistoryEntry} :
    f.sameEvent e = true ↔ f.IsSameReport e := by
  unfold sameEvent IsSameReport
  cases hf : f.externalTime with
  | none => simp
  | some t =>
    cases he : e.externalTime with
    | none => simp
    | some t' => simp [and_comm]

theorem nextStatus_eq_none_iff {current : Option StatusReached} {e : HistoryEntry} :
    nextStatus current e = none ↔ current = none ∧ e.status? = none := by
  cases current with
  | none => cases h : e.status? <;> simp [nextStatus, h]
  | some r =>
    have hsome : (nextStatus (some r) e).isSome = true := isSome_nextStatus e rfl
    constructor
    · intro h
      rw [h] at hsome
      cases hsome
    · rintro ⟨h, -⟩
      cases h

/-- A history leads to no status exactly while none of its entries implies one. -/
theorem statusOf_eq_none_iff {history : List HistoryEntry} :
    statusOf history = none ↔ ∀ e ∈ history, e.status? = none := by
  induction history using List.reverseRecOn with
  | nil => exact iff_of_true rfl nofun
  | append_singleton rest e ih =>
    rw [statusOf_append_singleton, nextStatus_eq_none_iff, ih, List.forall_mem_append,
      List.forall_mem_singleton]

/-- A terminal status is moved by an entry of this system alone, to the status that it names. -/
theorem nextStatus_of_moved {r r' : StatusReached} {e : HistoryEntry} (hr : r.1.isTerminal = true)
    (h : nextStatus (some r) e = some r') (hmoved : r' ≠ r) :
    e.origin = .system ∧ e.status = r'.1.name := by
  have hinert : e.isInert = false := by
    by_contra hnot
    rw [nextStatus_of_inert hr (eq_true_of_ne_false hnot)] at h
    exact hmoved (Option.some.inj h).symm
  have horigin : e.origin = .system := by
    by_contra hnot
    rw [HistoryEntry.isInert_of_ne_system hnot] at hinert
    cases hinert
  refine ⟨horigin, ?_⟩
  cases hs : e.status? with
  | none => simp [HistoryEntry.isInert, hs] at hinert
  | some s =>
    have hnext : nextStatus (some r) e = some (s, e.recorded) := by
      simp [nextStatus, horigin, Origin.isEngine, hs]
    rw [hnext] at h
    cases h
    have hname : Status.ofName? e.status = some s := by
      simpa [HistoryEntry.status?, horigin] using hs
    exact (Status.name_of_ofName? hname).symm

namespace Container

variable {c d : Container} {e : HistoryEntry} {now : Instant}

/-! ## Offering entries -/

/-- Whether a record takes an entry that it is offered, and the record then. -/
def offer (c : Container) (e : HistoryEntry) : Bool × Container :=
  ((c.append? e).isSome, (c.append? e).getD c)

/-- The record after it was offered some entries one after another. -/
def offered (c : Container) (entries : List HistoryEntry) : Container :=
  entries.foldl (fun c e => (c.offer e).2) c

theorem offer_of_append?_none (h : c.append? e = none) : c.offer e = (false, c) := by
  rw [offer, h]
  rfl

theorem offer_of_append?_some (h : c.append? e = some d) : c.offer e = (true, d) := by
  rw [offer, h]
  rfl

theorem records_iff : c.records e = true ↔ ∃ f ∈ c.history, f.IsSameReport e := by
  unfold records
  simp only [List.any_eq_true, HistoryEntry.sameEvent_iff]

/-- What the offer of an entry does: the record takes it at the end of its history, or stays as it
is because it has the report already. -/
structure Takes (c : Container) (e : HistoryEntry) : Prop where
  added : (c.offer e).1 = true → (c.offer e).2 = { c with
    history := c.history ++ [e]
    status := (c.offer e).2.status
    statusTime := (c.offer e).2.statusTime }
  refused : (c.offer e).1 = false → (c.offer e).2 = c
  refused_iff : (c.offer e).1 = false ↔ ∃ f ∈ c.history, f.IsSameReport e
  shielded : c.isFinalized = true →
    (c.offer e).2.status ≠ c.status ∨ (c.offer e).2.statusTime ≠ c.statusTime →
    e.origin = .system ∧ e.status = (c.offer e).2.status.name

/-- Whether a record made at an instant is told by its history, which has no report twice. -/
structure IsChronicle (now : Instant) (c : Container) : Prop where
  projected : (c.status, c.statusTime) = (statusOf c.history).getD (.created, now)
  distinct : c.history.Pairwise fun f e => ¬ f.IsSameReport e

theorem projected_of_append? (h : c.append? e = some d)
    (hc : (c.status, c.statusTime) = (statusOf c.history).getD (.created, now)) :
    (d.status, d.statusTime) = (statusOf d.history).getD (.created, now) := by
  obtain ⟨-, rfl⟩ := append?_eq_some_iff.1 h
  rw [history_withStatus]
  unfold withStatus
  cases hstatus : statusOf (c.history ++ [e]) with
  | some r => simp
  | none =>
    -- a history that still leads to no status did not before
    rw [statusOf_append_singleton, nextStatus_eq_none_iff] at hstatus
    rw [hstatus.1] at hc
    simpa [hstatus] using hc

/-! ## One step -/

theorem IsChronicle.offer (h : c.IsChronicle now) (e : HistoryEntry) :
    (c.offer e).2.IsChronicle now := by
  cases hd : c.append? e with
  | none =>
    rw [offer_of_append?_none hd]
    exact h
  | some d =>
    rw [offer_of_append?_some hd]
    refine ⟨projected_of_append? hd h.projected, ?_⟩
    have hnew : ∀ f ∈ c.history, ¬ f.IsSameReport e := by
      intro f hf hsame
      have hrecords := records_iff.2 ⟨f, hf, hsame⟩
      rw [(append?_eq_some_iff.1 hd).1] at hrecords
      cases hrecords
    rw [history_of_append? hd, List.pairwise_append]
    refine ⟨h.distinct, List.pairwise_singleton _ _, fun f hf g hg => ?_⟩
    rw [List.mem_singleton.1 hg]
    exact hnew f hf

/-- A record at its end moves only with an entry of this system that names a status. -/
theorem IsChronicle.shielded (h : c.IsChronicle now) (hd : c.append? e = some d)
    (hended : c.isFinalized = true) (hmoved : d.status ≠ c.status ∨ d.statusTime ≠ c.statusTime) :
    e.origin = .system ∧ e.status = d.status.name := by
  have hnext := statusOf_of_append? hd
  have hafter := projected_of_append? hd h.projected
  have hbefore := h.projected
  rw [hnext] at hafter
  cases hr : statusOf c.history with
  | none =>
    rw [hr] at hbefore
    have hcreated : c.status = .created := congrArg Prod.fst hbefore
    rw [isFinalized, hcreated] at hended
    cases hended
  | some r =>
    rw [hr, Option.getD_some] at hbefore
    have hsome : (nextStatus (some r) e).isSome = true := isSome_nextStatus e rfl
    obtain ⟨r', hr'⟩ := Option.isSome_iff_exists.1 hsome
    rw [hr, hr', Option.getD_some] at hafter
    have hterminal : r.1.isTerminal = true := by
      rw [← hbefore]
      exact hended
    -- the record shows what its history projects to, so the projection has moved with it
    have hne : r' ≠ r := by
      rintro rfl
      rw [← hbefore, Prod.mk.injEq] at hafter
      exact hmoved.elim (fun hs => hs hafter.1) fun ht => ht hafter.2
    obtain ⟨horigin, hname⟩ := nextStatus_of_moved hterminal hr' hne
    rw [← hafter] at hname
    exact ⟨horigin, hname⟩

theorem IsChronicle.takes (h : c.IsChronicle now) (e : HistoryEntry) : c.Takes e := by
  cases hd : c.append? e with
  | none =>
    have hrecords := (append?_eq_none_iff c e).1 hd
    have hoffer := offer_of_append?_none hd
    refine ⟨?_, ?_, ?_, ?_⟩ <;> rw [hoffer]
    · nofun
    · exact fun _ => rfl
    · exact iff_of_true rfl (records_iff.1 hrecords)
    · rintro - (hs | ht)
      · exact absurd rfl hs
      · exact absurd rfl ht
  | some d =>
    have hnew := (append?_eq_some_iff.1 hd).1
    have hoffer := offer_of_append?_some hd
    refine ⟨?_, ?_, ?_, ?_⟩ <;> rw [hoffer]
    · intro _
      rw [← history_of_append? hd]
      exact eq_of_append? hd
    · nofun
    · refine iff_of_false nofun fun hsame => ?_
      rw [records_iff.2 hsame] at hnew
      cases hnew
    · exact h.shielded hd

/-! ## All steps -/

theorem isChronicle_ofResolved (now : Instant) (r : Resolved) (user : String) :
    (ofResolved now r user).IsChronicle now :=
  ⟨rfl, .nil⟩

theorem IsChronicle.offered (h : c.IsChronicle now) (entries : List HistoryEntry) :
    (c.offered entries).IsChronicle now := by
  induction entries generalizing c with
  | nil => exact h
  | cons e rest ih => exact ih (h.offer e)

/-- A record is the chronicle of what it was offered since it was made, and takes every further
entry as a chronicle does. While none of its entries implies a status, it is as it was made. -/
theorem offered_isChronicle (now : Instant) (r : Resolved) (user : String)
    (entries : List HistoryEntry) :
    ((ofResolved now r user).offered entries).IsChronicle now ∧
      ((∀ e ∈ ((ofResolved now r user).offered entries).history, e.status? = none) →
        ((ofResolved now r user).offered entries).status = .created ∧
          ((ofResolved now r user).offered entries).statusTime = now) ∧
      ∀ e, ((ofResolved now r user).offered entries).Takes e := by
  have h := (isChronicle_ofResolved now r user).offered entries
  refine ⟨h, fun hnone => ?_, h.takes⟩
  have hprojected := h.projected
  rw [statusOf_eq_none_iff.2 hnone] at hprojected
  exact Prod.mk.inj hprojected

end Container

end Mooring
