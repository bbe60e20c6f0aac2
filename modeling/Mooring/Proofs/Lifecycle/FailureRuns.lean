import Mathlib.Data.List.Infix
import Mooring.Lifecycle.Failures

set_option autoImplicit false

/-!
# Runs of failures

What is kept of failures and successes depends on their order alone. A run is the longest row of
failures of one kind at the end of what was noted (`EndsWith`), and there is one exactly if the last
success is followed by a failure (`IsOutstanding`). One more note keeps the two in step with what is
kept (`Follows.note`), and so do notes of any number (`follows_after`). Hence what is kept is the
run at the end, a failure tells whether it starts a run, and a success tells the run that it ends
(`after_keepsRun`).
-/

namespace Mooring.Failures

/-- A failure of some kind at some time, or a success. -/
inductive Note where
  | fail (kind : FailureKind) (now : Instant)
  | succeed
  deriving DecidableEq

/-- What is kept after one more note. -/
def note (f : Failures) : Note → Failures
  | .fail kind now => (f.fail kind now).2
  | .succeed => f.succeed.2

/-- What is kept after notes, one after the other. -/
def after (f : Failures) (notes : List Note) : Failures :=
  notes.foldl note f

theorem after_concat (f : Failures) (notes : List Note) (last : Note) :
    f.after (notes ++ [last]) = (f.after notes).note last := by
  simp [after]

/-! ## Runs at the end of notes -/

/-- Whether a failure of a kind that comes next starts a run: the failure before it, if that is the
last note, is of another kind. -/
def StartsRun (notes : List Note) (kind : FailureKind) : Prop :=
  ∀ now, notes.getLast? ≠ some (.fail kind now)

/-- Whether notes end with a run: failures of one kind in a row, as many as the run counts, the
first at the time of the run and with none of the kind right before it. -/
def EndsWith (notes : List Note) (r : FailureRun) : Prop :=
  ∃ (before : List Note) (times : List Instant),
    notes = before ++ (r.firstSeen :: times).map (.fail r.kind) ∧
      StartsRun before r.kind ∧ r.attempts = times.length + 1

/-- Whether there is a failure without a success after it. -/
def IsOutstanding (notes : List Note) : Prop :=
  ∃ before kind now rest, notes = before ++ .fail kind now :: rest ∧ .succeed ∉ rest

/-- Whether there are never as many failures in a row as the limit, of whatever kinds. -/
def RowsBelow (limit : Nat) (notes : List Note) : Prop :=
  ∀ row, row <:+: notes → .succeed ∉ row → row.length < limit

section Ends

variable {notes : List Note} {r s : FailureRun} {kind : FailureKind} {now : Instant}

theorem EndsWith.exists_getLast? (h : EndsWith notes r) :
    ∃ now, notes.getLast? = some (.fail r.kind now) := by
  obtain ⟨before, times, rfl, -, -⟩ := h
  obtain ⟨init, now, htimes⟩ : ∃ init now, r.firstSeen :: times = init ++ [now] :=
    (List.eq_nil_or_concat' _).resolve_left (List.cons_ne_nil _ _)
  rw [htimes]
  exact ⟨now, by simp⟩

theorem EndsWith.not_startsRun (h : EndsWith notes r) : ¬ StartsRun notes r.kind := by
  intro hstarts
  obtain ⟨now, hlast⟩ := h.exists_getLast?
  exact hstarts now hlast

theorem not_endsWith_nil : ¬ EndsWith [] r := by
  intro h
  obtain ⟨now, hlast⟩ := h.exists_getLast?
  cases hlast

theorem not_endsWith_succeed : ¬ EndsWith (notes ++ [.succeed]) r := by
  intro h
  obtain ⟨now, hlast⟩ := h.exists_getLast?
  simp at hlast

/-- A failure that starts a run is a run of its own. -/
theorem endsWith_first (h : StartsRun notes kind) (now : Instant) :
    EndsWith (notes ++ [.fail kind now]) ⟨kind, now, 1⟩ :=
  ⟨notes, [], rfl, h, rfl⟩

/-- One more failure of the kind makes the run longer by one. -/
theorem EndsWith.again (h : EndsWith notes r) (now : Instant) :
    EndsWith (notes ++ [.fail r.kind now]) { r with attempts := r.attempts + 1 } := by
  obtain ⟨before, times, rfl, hstarts, hcount⟩ := h
  refine ⟨before, times ++ [now], ?_, hstarts, ?_⟩
  · simp
  · simp [hcount]

/-- Of two rows of one kind at the end of the same notes, the one with another kind before it does
not start later. -/
theorem eq_nil_of_startsRun {before front : List Note} {run rest : List Instant}
    (hstarts : StartsRun (before ++ front) kind)
    (h : run.map (.fail kind) = front ++ rest.map (.fail kind)) : front = [] := by
  rcases List.eq_nil_or_concat' front with hnil | ⟨init, last, rfl⟩
  · exact hnil
  -- else the last note before the later row belongs to the earlier row
  · have hmem : last ∈ run.map (Note.fail kind) := by
      rw [h]
      simp
    obtain ⟨now, -, rfl⟩ := List.mem_map.1 hmem
    exact absurd (by simp) (hstarts now)

/-- Notes end with one run at most. -/
theorem EndsWith.unique (hr : EndsWith notes r) (hs : EndsWith notes s) : r = s := by
  have hkind : r.kind = s.kind := by
    obtain ⟨now, hr⟩ := hr.exists_getLast?
    obtain ⟨now', hs⟩ := hs.exists_getLast?
    exact (Note.fail.inj (Option.some.inj (hr.symm.trans hs))).1
  obtain ⟨before, times, rfl, hstarts, hcount⟩ := hr
  obtain ⟨before', times', heq, hstarts', hcount'⟩ := hs
  rw [← hkind] at heq hstarts'
  -- neither row starts after the other, so they are the same
  have htimes : r.firstSeen :: times = s.firstSeen :: times' := by
    have hinj : Function.Injective (Note.fail r.kind) := by
      intro a b hab
      cases hab
      rfl
    apply List.map_injective_iff.2 hinj
    rcases List.append_eq_append_iff.1 heq with ⟨front, rfl, hrow⟩ | ⟨front, rfl, hrow⟩
    · rw [eq_nil_of_startsRun hstarts' hrow] at hrow
      exact hrow
    · rw [eq_nil_of_startsRun hstarts hrow] at hrow
      exact hrow.symm
  obtain ⟨hfirst, htimes⟩ := List.cons.inj htimes
  have hattempts : r.attempts = s.attempts := by rw [hcount, hcount', htimes]
  cases r
  cases s
  rw [FailureRun.mk.injEq]
  exact ⟨hkind, hfirst, hattempts⟩

/-- A run is a row of failures. -/
theorem EndsWith.attempts_lt {limit : Nat} (h : EndsWith notes r) (hrows : RowsBelow limit notes) :
    r.attempts < limit := by
  obtain ⟨before, times, rfl, -, hcount⟩ := h
  -- no success stands in the run, so it is one of the rows that are bounded
  have hrow := hrows ((r.firstSeen :: times).map (.fail r.kind))
    (List.suffix_append before _).isInfix (by simp)
  rw [hcount]
  simpa using hrow

theorem isOutstanding_fail (notes : List Note) (kind : FailureKind) (now : Instant) :
    IsOutstanding (notes ++ [.fail kind now]) :=
  ⟨notes, kind, now, [], rfl, List.not_mem_nil⟩

theorem not_isOutstanding_succeed : ¬ IsOutstanding (notes ++ [.succeed]) := by
  rintro ⟨before, kind, now, rest, heq, hrest⟩
  -- the last note would stand at or after the failure
  have hlast := congrArg List.getLast? heq
  rw [List.getLast?_concat, List.getLast?_append_of_ne_nil _ (List.cons_ne_nil _ _)] at hlast
  rcases List.mem_cons.1 (List.mem_of_getLast? hlast.symm) with hfail | hmem
  · cases hfail
  · exact hrest hmem

theorem not_isOutstanding_nil : ¬ IsOutstanding [] := by
  rintro ⟨before, kind, now, rest, heq, -⟩
  simp at heq

end Ends

/-! ## What is kept -/

/-- Whether what is kept is the run at the end of notes, and nothing if no failure is
outstanding. -/
structure Follows (f : Failures) (notes : List Note) : Prop where
  current_iff : ∀ r, f.current = some r ↔ EndsWith notes r
  none_iff : f.current = none ↔ ¬ IsOutstanding notes

variable {f : Failures} {notes : List Note}

/-- What is kept follows notes that end with the run that it keeps. -/
theorem follows_of_endsWith {r : FailureRun} (hends : EndsWith notes r)
    (houtstanding : IsOutstanding notes) : Follows ⟨some r⟩ notes where
  current_iff := by
    intro s
    rw [Option.some.injEq]
    constructor
    · rintro rfl
      exact hends
    · intro hs
      exact hends.unique hs
  none_iff := by simp [houtstanding]

theorem follows_fresh : Follows {} [] where
  current_iff := by simp [not_endsWith_nil]
  none_iff := by simp [not_isOutstanding_nil]

theorem follows_succeed (f : Failures) (notes : List Note) :
    Follows f.succeed.2 (notes ++ [.succeed]) where
  current_iff := by simp [succeed, not_endsWith_succeed]
  none_iff := by simp [succeed, not_isOutstanding_succeed]

/-- A failure starts a run exactly if none of its kind is kept. -/
theorem Follows.startsRun_iff (h : Follows f notes) (kind : FailureKind) :
    StartsRun notes kind ↔ ∀ r, f.current = some r → r.kind ≠ kind := by
  constructor
  · rintro hstarts r hr rfl
    exact ((h.current_iff r).1 hr).not_startsRun hstarts
  · intro hnone now hlast
    obtain ⟨before, rfl⟩ := List.getLast?_eq_some_iff.1 hlast
    -- the last note is a failure, so some run is kept, and it is of that kind
    cases hcurrent : f.current with
    | none => exact h.none_iff.1 hcurrent (isOutstanding_fail before kind now)
    | some r =>
      obtain ⟨now', hlast'⟩ := ((h.current_iff r).1 hcurrent).exists_getLast?
      rw [hlast'] at hlast
      cases hlast
      exact hnone r hcurrent rfl

theorem fst_fail_iff (f : Failures) (kind : FailureKind) (now : Instant) :
    (f.fail kind now).1 = true ↔ ∀ r, f.current = some r → r.kind ≠ kind := by
  unfold fail
  cases f.current with
  | none => simp
  | some r => by_cases hkind : r.kind = kind <;> simp [hkind]

theorem fail_of_kind_ne {kind : FailureKind} (now : Instant)
    (h : ∀ r, f.current = some r → r.kind ≠ kind) :
    f.fail kind now = (true, ⟨some ⟨kind, now, 1⟩⟩) := by
  unfold fail
  cases hcurrent : f.current with
  | none => rfl
  | some r => simp [h r hcurrent]

theorem fail_of_current {r : FailureRun} (now : Instant) (h : f.current = some r) :
    f.fail r.kind now = (false, ⟨some { r with attempts := r.attempts + 1 }⟩) := by
  simp [fail, h]

/-- One more note keeps what is kept in step with the notes. -/
theorem Follows.note (h : Follows f notes) (last : Note) :
    Follows (f.note last) (notes ++ [last]) := by
  cases last with
  | succeed => exact follows_succeed f notes
  | fail kind now =>
    show Follows (f.fail kind now).2 _
    by_cases hstarts : StartsRun notes kind
    · rw [fail_of_kind_ne now ((h.startsRun_iff kind).1 hstarts)]
      exact follows_of_endsWith (endsWith_first hstarts now) (isOutstanding_fail notes kind now)
    · -- the run that is kept is of the kind of the failure
      rw [h.startsRun_iff] at hstarts
      push Not at hstarts
      obtain ⟨r, hr, rfl⟩ := hstarts
      rw [fail_of_current now hr]
      exact follows_of_endsWith (((h.current_iff r).1 hr).again now)
        (isOutstanding_fail notes r.kind now)

/-- What is kept follows all that was noted since the start. -/
theorem follows_after (notes : List Note) : Follows (({} : Failures).after notes) notes := by
  induction notes using List.reverseRecOn with
  | nil => exact follows_fresh
  | append_singleton notes last ih =>
    rw [after_concat]
    exact ih.note last

/-- After any notes nothing is kept exactly if no failure is outstanding, and else the run that the
notes end with, whose count fits 32 bits if the failures in a row do. A failure that comes next
answers yes exactly if it starts a run, and a success answers with the run at the end, or with
nothing if no failure is outstanding. -/
theorem after_keepsRun (h : RowsBelow UInt32.size notes) :
    ((({} : Failures).after notes).current = none ↔ ¬ IsOutstanding notes) ∧
    (∀ r, (({} : Failures).after notes).current = some r ↔ EndsWith notes r) ∧
    (∀ r, (({} : Failures).after notes).current = some r → r.attempts < UInt32.size) ∧
    (∀ kind now,
      ((({} : Failures).after notes).fail kind now).1 = true ↔ StartsRun notes kind) ∧
    ((({} : Failures).after notes).succeed.1 = none ↔ ¬ IsOutstanding notes) ∧
    ∀ r, (({} : Failures).after notes).succeed.1 = some r ↔ EndsWith notes r := by
  have hfollows := follows_after notes
  refine ⟨hfollows.none_iff, hfollows.current_iff, ?_, ?_, hfollows.none_iff,
    hfollows.current_iff⟩
  · intro r hr
    exact ((hfollows.current_iff r).1 hr).attempts_lt h
  · intro kind now
    rw [fst_fail_iff, hfollows.startsRun_iff]

/-- A run that a success ends, a run that another kind ends, and a run of two. -/
def alternating : List Note :=
  [.fail .engine ⟨1, 0⟩, .succeed, .fail .engineUnavailable ⟨2, 0⟩, .fail .notConfigured ⟨3, 0⟩,
    .fail .notConfigured ⟨4, 0⟩]

theorem after_keepsRun_alternating :
    RowsBelow UInt32.size alternating ∧ EndsWith alternating ⟨.notConfigured, ⟨3, 0⟩, 2⟩ ∧
      ¬ StartsRun alternating .notConfigured ∧ StartsRun alternating .engineUnavailable := by
  have hrows : RowsBelow UInt32.size alternating := by
    intro row hrow _
    have hlength : row.length ≤ 5 := hrow.length_le
    exact Nat.lt_of_le_of_lt hlength (by decide)
  obtain ⟨-, hcurrent, -, hfirst, -, -⟩ := after_keepsRun hrows
  refine ⟨hrows, (hcurrent _).1 rfl, ?_, ?_⟩
  · rw [← hfirst .notConfigured ⟨5, 0⟩]
    decide
  · rw [← hfirst .engineUnavailable ⟨5, 0⟩]
    decide

end Mooring.Failures
