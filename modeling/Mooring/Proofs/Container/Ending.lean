import Mathlib.Data.List.Induction
import Mooring.Proofs.Store.Lookup

set_option autoImplicit false

/-!
# How a history ends

Which entries can move a terminal status. An entry of the engine and an entry without a status are
inert: they never do (`statusOf_append_of_inert`). A terminal status is reached by an ending alone,
an entry of this system that names a terminal status (`exists_isEnding_of_statusOf`).
-/

namespace Mooring

namespace HistoryEntry

/-- Whether an entry of this system brings the container to its end. -/
def isEnding (e : HistoryEntry) : Bool :=
  e.origin = .system && e.status?.any Status.isTerminal

/-- Whether an entry of this system begins a finalization. -/
def isOpening (e : HistoryEntry) : Bool :=
  e.origin = .system && e.status? = some .finalizing

/-- Whether an entry cannot move a terminal status. -/
def isInert (e : HistoryEntry) : Bool :=
  e.origin.isEngine || e.status?.isNone

/-- What anybody but this system observes is inert. -/
theorem isInert_of_ne_system {e : HistoryEntry} (h : e.origin ≠ .system) : e.isInert = true := by
  unfold isInert
  cases ho : e.origin with
  | event => rfl
  | service => rfl
  | user => simp [status?, ho, Origin.isEngine]
  | system => exact absurd ho h

theorem isEnding_of_ne_system {e : HistoryEntry} (h : e.origin ≠ .system) :
    e.isEnding = false := by
  simp [isEnding, h]

theorem isOpening_of_ne_system {e : HistoryEntry} (h : e.origin ≠ .system) :
    e.isOpening = false := by
  simp [isOpening, h]

theorem isEnding_of_isOpening {e : HistoryEntry} (h : e.isOpening = true) :
    e.isEnding = false := by
  simp only [isOpening, Bool.and_eq_true, decide_eq_true_eq] at h
  simp [isEnding, h.1, h.2, Status.isTerminal]

/-- A container event implies no terminal status. -/
theorem not_isTerminal_of_statusOfEvent? {event : String} {s : Status}
    (h : statusOfEvent? event = some s) : s.isTerminal = false := by
  unfold statusOfEvent? at h
  split at h
  · cases h
    rfl
  · split at h
    · cases h
      rfl
    · split at h
      · cases h
        rfl
      · cases h

/-- A phase of a task implies no terminal status. -/
theorem not_isTerminal_of_statusOfPhase? {phase : TaskPhase} {s : Status}
    (h : statusOfPhase? phase = some s) : s.isTerminal = false := by
  cases phase <;> cases h <;> rfl

/-- Only an ending implies a terminal status. -/
theorem isEnding_of_isTerminal {e : HistoryEntry} {s : Status} (h : e.status? = some s)
    (hs : s.isTerminal = true) : e.isEnding = true := by
  cases ho : e.origin with
  | system => simp [isEnding, ho, h, hs]
  | event =>
    have h' : statusOfEvent? e.status = some s := by simpa [status?, ho] using h
    rw [not_isTerminal_of_statusOfEvent? h'] at hs
    cases hs
  | service =>
    have h' : statusOfPhase? (.ofState e.status) = some s := by simpa [status?, ho] using h
    rw [not_isTerminal_of_statusOfPhase? h'] at hs
    cases hs
  | user =>
    simp [status?, ho] at h

/-- An entry that reports an exit implies that the container is being finalized. -/
theorem status?_of_signalsExit {e : HistoryEntry} (h : e.signalsExit = true) :
    e.status? = some .finalizing := by
  cases ho : e.origin with
  | event => simpa [signalsExit, status?, ho, eventEnds] using h
  | service =>
    have h' : TaskPhase.ofState e.status = .exited := by simpa [signalsExit, ho] using h
    simp [status?, ho, h', statusOfPhase?]
  | system => simp [signalsExit, ho] at h
  | user => simp [signalsExit, ho] at h

end HistoryEntry

/-! ## The status that a longer history leads to -/

theorem statusOf_append (history added : List HistoryEntry) :
    statusOf (history ++ added) = added.foldl nextStatus (statusOf history) := by
  simp [statusOf]

theorem nextStatus_of_inert {r : StatusReached} {e : HistoryEntry} (hr : r.1.isTerminal = true)
    (he : e.isInert = true) : nextStatus (some r) e = some r := by
  obtain ⟨s, t⟩ := r
  by_cases ho : e.origin.isEngine = true
  · exact nextStatus_of_terminal hr ho
  · have hn : e.status? = none := by simpa [HistoryEntry.isInert, ho] using he
    simp [nextStatus, ho, hn]

/-- Once a history leads to a status, a longer one does. -/
theorem isSome_nextStatus {current : Option StatusReached} (e : HistoryEntry)
    (h : current.isSome = true) : (nextStatus current e).isSome = true := by
  unfold nextStatus
  split
  · exact h
  · cases e.status? with
    | none => exact h
    | some s => rfl

theorem isSome_statusOf_append {history : List HistoryEntry} (added : List HistoryEntry)
    (h : (statusOf history).isSome = true) : (statusOf (history ++ added)).isSome = true := by
  induction added using List.reverseRecOn with
  | nil => rwa [List.append_nil]
  | append_singleton rest e ih =>
    rw [← List.append_assoc, statusOf_append_singleton]
    exact isSome_nextStatus e ih

/-- Inert entries leave a terminal status where it is. -/
theorem statusOf_append_of_inert {history added : List HistoryEntry} {r : StatusReached}
    (h : statusOf history = some r) (hr : r.1.isTerminal = true)
    (ha : ∀ e ∈ added, e.isInert = true) : statusOf (history ++ added) = some r := by
  rw [statusOf_append, h]
  clear h
  induction added with
  | nil => rfl
  | cons e rest ih =>
    rw [List.foldl_cons, nextStatus_of_inert hr (ha e List.mem_cons_self)]
    exact ih fun d hd => ha d (List.mem_cons_of_mem e hd)

/-- An ending leads to a terminal status from everywhere. -/
theorem nextStatus_of_isEnding (current : Option StatusReached) {e : HistoryEntry}
    (he : e.isEnding = true) : ∃ r, nextStatus current e = some r ∧ r.1.isTerminal = true := by
  simp only [HistoryEntry.isEnding, Bool.and_eq_true, decide_eq_true_eq] at he
  obtain ⟨ho, hs⟩ := he
  obtain ⟨s, hs, ht⟩ := (Option.any_eq_true ..).1 hs
  refine ⟨(s, e.recorded), ?_, ht⟩
  simp [nextStatus, ho, Origin.isEngine, hs]

/-- A terminal status is there already, or comes with an ending. -/
theorem isEnding_of_nextStatus {current : Option StatusReached} {e : HistoryEntry}
    {r : StatusReached} (h : nextStatus current e = some r) (hr : r.1.isTerminal = true) :
    current = some r ∨ e.isEnding = true := by
  unfold nextStatus at h
  split at h
  · exact .inl h
  · -- every other entry with a status leads there, from a terminal status as well
    split at h
    · next s hs =>
      cases h
      exact .inr (HistoryEntry.isEnding_of_isTerminal hs hr)
    · exact .inl h

/-- A history that leads to a terminal status holds an ending. -/
theorem exists_isEnding_of_statusOf {history : List HistoryEntry} {r : StatusReached}
    (h : statusOf history = some r) (hr : r.1.isTerminal = true) :
    ∃ e ∈ history, e.isEnding = true := by
  induction history using List.reverseRecOn with
  | nil => cases h
  | append_singleton rest e ih =>
    rw [statusOf_append_singleton] at h
    rcases isEnding_of_nextStatus h hr with hc | he
    · obtain ⟨d, hd, hend⟩ := ih hc
      exact ⟨d, List.mem_append_left _ hd, hend⟩
    · exact ⟨e, by simp, he⟩

/-! ## Containers that came to their end -/

namespace Container

theorem status_withStatus (c : Container) :
    c.withStatus.status = ((statusOf c.history).map Prod.fst).getD c.status := by
  unfold withStatus
  cases statusOf c.history <;> rfl

theorem status_of_append? {c d : Container} {e : HistoryEntry} (h : c.append? e = some d) :
    d.status = ((statusOf d.history).map Prod.fst).getD c.status := by
  obtain ⟨-, rfl⟩ := append?_eq_some_iff.1 h
  rw [history_withStatus, status_withStatus]

/-- Whether the history of a container accounts for its status. -/
def IsFaithful (c : Container) : Prop :=
  ∀ r, statusOf c.history = some r → c.status = r.1

/-- Whether a container is at its end by its history. -/
def IsConcluded (c : Container) : Prop :=
  ∃ r, statusOf c.history = some r ∧ r.1.isTerminal = true ∧ c.status = r.1

theorem IsConcluded.isFinalized {c : Container} (h : c.IsConcluded) : c.isFinalized = true := by
  obtain ⟨r, -, ht, hs⟩ := h
  rw [Container.isFinalized, hs]
  exact ht

theorem isFaithful_of_append? {c d : Container} {e : HistoryEntry} (h : c.append? e = some d) :
    d.IsFaithful := by
  intro r hr
  rw [status_of_append? h, hr]
  rfl

theorem statusOf_of_append? {c d : Container} {e : HistoryEntry} (h : c.append? e = some d) :
    statusOf d.history = nextStatus (statusOf c.history) e := by
  rw [history_of_append? h, statusOf_append_singleton]

/-- An ending concludes a container. -/
theorem isConcluded_of_isEnding {c d : Container} {e : HistoryEntry} (h : c.append? e = some d)
    (he : e.isEnding = true) : d.IsConcluded := by
  obtain ⟨r, hr, ht⟩ := nextStatus_of_isEnding (statusOf c.history) he
  have hd : statusOf d.history = some r := (statusOf_of_append? h).trans hr
  exact ⟨r, hd, ht, isFaithful_of_append? h r hd⟩

/-- A container that is at its end stays there when an entry is inert. -/
theorem IsConcluded.of_isInert {c d : Container} {e : HistoryEntry} (hc : c.IsConcluded)
    (h : c.append? e = some d) (he : e.isInert = true) : d.IsConcluded ∧ d.status = c.status := by
  obtain ⟨r, hr, ht, hs⟩ := hc
  have hd : statusOf d.history = some r := by
    rw [statusOf_of_append? h, hr]
    exact nextStatus_of_inert ht he
  have hds : d.status = r.1 := isFaithful_of_append? h r hd
  exact ⟨⟨r, hd, ht, hds⟩, hds.trans hs.symm⟩

/-- Once an exit is recorded the history leads to a status. -/
theorem isSome_statusOf_of_signalsExit {history : List HistoryEntry} {e : HistoryEntry}
    (h : e ∈ history) (he : e.signalsExit = true) : (statusOf history).isSome = true := by
  induction history using List.reverseRecOn with
  | nil => cases h
  | append_singleton rest d ih =>
    rw [statusOf_append_singleton]
    rcases List.mem_append.1 h with hm | hm
    · exact isSome_nextStatus d (ih hm)
    · obtain rfl : e = d := List.mem_singleton.1 hm
      unfold nextStatus
      rw [HistoryEntry.status?_of_signalsExit he]
      split
      · next hc =>
        simp only [Bool.and_eq_true] at hc
        obtain ⟨r, hr, -⟩ := (Option.any_eq_true ..).1 hc.1
        rw [hr]
        rfl
      · rfl

end Container

end Mooring
