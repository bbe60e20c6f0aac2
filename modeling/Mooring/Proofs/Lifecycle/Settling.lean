import Mooring.Proofs.Lifecycle.Finalization

set_option autoImplicit false

/-!
# Whether an end is final

A record that came to its end should stay there, with one entry of this system that says so. What
can break this is the report that a service is gone, which is recorded whatever the status is.
Without such reports every run is tidy (`IsTidy.follow`), and with them a run settles the record
exactly when there is one report and nothing else brings the record to its end (`staysSettled_iff`).
-/

namespace Mooring

/-- Whether a record is as this system leaves it: its status follows from its history, and if an
entry of this system brought it to its end it was one entry, and it is still there. -/
structure Container.IsSettled (c : Container) : Prop where
  concluded : c.isFinalized = true → c.IsConcluded
  single : Tracker.endings c.history ≤ 1
  ended : Tracker.endings c.history ≠ 0 → c.isFinalized = true

namespace Tracker

theorem endings_of_append? {c d : Container} {e : HistoryEntry} (h : c.append? e = some d) :
    endings d.history = endings c.history + endings [e] := by
  rw [Container.history_of_append? h, endings_append]

theorem missingReports_of_append? {c d : Container} {e : HistoryEntry}
    (h : c.append? e = some d) :
    missingReports d.history = missingReports c.history + missingReports [e] := by
  rw [Container.history_of_append? h, missingReports_append]

/-- A history that concludes a record has an ending. -/
theorem endings_ne_zero_of_isConcluded {c : Container} (h : c.IsConcluded) :
    endings c.history ≠ 0 := by
  obtain ⟨r, hr, ht, -⟩ := h
  obtain ⟨e, he, hend⟩ := exists_isEnding_of_statusOf hr ht
  exact Nat.pos_iff_ne_zero.1 (List.countP_pos_iff.2 ⟨e, he, hend⟩)

namespace Watch

variable {w w' : Watch} {start c d : Container} {added more : List HistoryEntry}

/-! ## Without missing reports -/

/-- Whether a record has at most one ending, which concluded it, and whoever is about to write one
has not done so. -/
structure IsTidy (c : Container) (w : Watch) : Prop where
  single : endings c.history ≤ 1
  ended : endings c.history ≠ 0 → c.IsConcluded
  unended : ∀ i, w.phase i = .cleared ∨ (w.phase i).isUnderWay = true → endings c.history = 0

namespace IsTidy

/-- A step that adds no ending. -/
theorem keep (t : IsTidy c w) (hcount : endings d.history = endings c.history)
    (hconcluded : c.IsConcluded → d.IsConcluded)
    (hphase : ∀ i, w'.phase i = .cleared ∨ (w'.phase i).isUnderWay = true →
      endings c.history = 0) : IsTidy d w' where
  single := by
    rw [hcount]
    exact t.single
  ended h := hconcluded (t.ended (by rwa [← hcount]))
  unended i hi := by
    rw [hcount]
    exact hphase i hi

/-- A task that goes into a phase in which it is not about to write an ending. -/
theorem unended_enter (t : IsTidy c w) (i : Nat) {phase : Phase}
    (h : phase = .cleared ∨ phase.isUnderWay = true → endings c.history = 0) :
    ∀ j, (w.enter i phase).phase j = .cleared ∨ ((w.enter i phase).phase j).isUnderWay = true →
      endings c.history = 0 := by
  intro j hj
  by_cases hji : j = i
  · rw [hji, phase_enter_self] at hj
    exact h hj
  · rw [phase_enter, if_neg hji] at hj
    exact t.unended j hj

/-- Every step but a missing report leaves the record tidy. -/
theorem step (t : IsTidy c w) (hc : w.record = some c) (inv : w.Sound) (h : Step w w')
    (hd : w'.record = some d) (hmissing : missingReports d.history = missingReports c.history) :
    IsTidy d w' := by
  have same : ∀ {c' : Container}, w.record = some c' → c' = c := fun hr =>
    Option.some.inj (hr.symm.trans hc)
  have still : w'.record = w.record → d = c := fun hr =>
    Option.some.inj (hd.symm.trans (hr.trans hc))
  have quiet : ∀ {phase : Phase}, phase.isBound = false →
      phase = .cleared ∨ phase.isUnderWay = true → endings c.history = 0 := by
    intro phase hphase h
    rw [Phase.isBound_of_cleared_or h] at hphase
    cases hphase
  cases h with
  | aside =>
    obtain rfl := still rfl
    exact t
  | change record status history =>
    obtain rfl := same record
    obtain rfl := Option.some.inj hd
    refine t.keep (by rw [history]) ?_ t.unended
    rintro ⟨r, hr, ht, hs⟩
    exact ⟨r, history ▸ hr, ht, status.trans hs⟩
  | observe record append origin =>
    obtain rfl := same record
    obtain rfl := Option.some.inj hd
    refine t.keep ?_ (fun h => (h.of_isInert append
      (HistoryEntry.isInert_of_ne_system origin)).1) t.unended
    rw [endings_of_append? append, (counts_of_ne_system origin).1, Nat.add_zero]
  | report phase record append origin =>
    obtain rfl := same record
    obtain rfl := Option.some.inj hd
    refine t.keep ?_ (fun h => (h.of_isInert append
      (HistoryEntry.isInert_of_ne_system origin)).1)
      (t.unended_enter _ (by simp [Phase.isUnderWay]))
    rw [endings_of_append? append, (counts_of_ne_system origin).1, Nat.add_zero]
  | missing record append missing =>
    obtain rfl := same record
    obtain rfl := Option.some.inj hd
    -- the history would have one more report
    have hone := (counts_of_isEnding (HistoryEntry.isEnding_of_isMissingReport missing)).2.2
    rw [missingReports_of_append? append, hone, if_pos missing] at hmissing
    omega
  | lock phase unlocked =>
    obtain rfl := still rfl
    exact t.keep rfl id (t.unended_enter _ (by simp [Phase.isUnderWay]))
  | skip phase finalized =>
    obtain rfl := still rfl
    exact t.keep rfl id (t.unended_enter _ (quiet rfl))
  | clear phase record running =>
    obtain rfl := still rfl
    obtain rfl := same record
    refine t.keep rfl id (t.unended_enter _ fun _ => ?_)
    -- an ending would have concluded the record, which was looked at
    by_contra hne
    rw [(t.ended hne).isFinalized] at running
    cases running
  | @begin i _ _ _ phase record append opening =>
    obtain rfl := same record
    obtain rfl := Option.some.inj hd
    -- the record has no ending, and this entry is none
    have hzero := t.unended i (.inl phase)
    refine t.keep ?_ (fun h => absurd hzero (endings_ne_zero_of_isConcluded h)) fun _ _ => hzero
    rw [endings_of_append? append, (counts_of_isOpening opening).1, Nat.add_zero]
  | @call i phase =>
    obtain rfl := still rfl
    exact t.keep rfl id fun _ _ => t.unended i (.inr (by rw [phase]; rfl))
  | @conclude i _ d' _ phase record append ending other =>
    obtain rfl := same record
    obtain rfl := Option.some.inj hd
    have hzero := t.unended i (.inr (by rw [phase]; rfl))
    -- this is the only ending
    have hone : endings d'.history = 1 := by
      rw [endings_of_append? append, hzero, (counts_of_isEnding ending).1]
    refine ⟨Nat.le_of_eq hone, fun _ => Container.isConcluded_of_isEnding append ending, ?_⟩
    intro j hj
    -- whoever is about to write an ending holds the lock, as the task that just wrote one does
    exfalso
    by_cases hji : j = i
    · rw [hji, phase_enter_self] at hj
      simp [Phase.isUnderWay] at hj
    · rw [phase_enter, if_neg hji, phase_become] at hj
      exact hji (inv.alone j i (Phase.holds_of_cleared_or hj) (by rw [phase]; rfl))
  | unlock phase =>
    obtain rfl := still rfl
    exact t.keep rfl id (t.unended_enter _ (quiet rfl))
  | @hand i j giver taker =>
    obtain rfl := still rfl
    apply t.keep rfl id
    intro k hk
    by_cases hkj : k = j
    · rw [hkj, phase_enter_self] at hk
      simp [Phase.isUnderWay] at hk
    · rw [phase_enter, if_neg hkj] at hk
      exact t.unended_enter i (quiet rfl) k hk

/-- A settled record is tidy when no call has been made. -/
theorem initial (h : c.IsSettled) (record : Option Container) : IsTidy c (.initial record) where
  single := h.single
  ended hne := h.concluded (h.ended hne)
  unended _ hi := by
    rcases hi with hi | hi
    · cases hi
    · cases hi

end IsTidy

/-! ## From one point of a run to a later one -/

namespace Grown

/-- What was added by then is determined by the watch. -/
theorem unique (g : Grown start added c w) (g' : Grown start more d w) : d = c ∧ more = added := by
  obtain rfl := Option.some.inj (g'.record.symm.trans g.record)
  exact ⟨rfl, List.append_cancel_left (g'.history.symm.trans g.history)⟩

/-- A run without missing reports leaves the record tidy. -/
theorem isTidy_follow (g : Grown start [] start w) (t : IsTidy start w) (inv : w.Sound)
    (h : Relation.ReflTransGen Step w w') (g' : Grown start added d w')
    (hmissing : missingReports added = 0) : IsTidy d w' := by
  induction h generalizing d added with
  | refl =>
    obtain ⟨rfl, -⟩ := g.unique g'
    exact t
  | tail hsteps hstep ih =>
    obtain ⟨c, earlier, gc⟩ := g.follow inv hsteps
    rw [List.nil_append] at gc
    obtain ⟨d', more, gd⟩ := gc.step (inv.follow hsteps) hstep
    obtain ⟨rfl, rfl⟩ := gd.unique g'
    -- no part of the run has a report either
    rw [missingReports_append] at hmissing
    apply (ih gc (by omega)).step gc.record (inv.follow hsteps) hstep g'.record
    rw [g'.history, gc.history, missingReports_append, missingReports_append,
      missingReports_append]
    omega

/-- A tidy record has one ending, or one finalization that is to write it. -/
theorem endings_of_isTidy (g : Grown start added d w) (t : IsTidy d w) :
    endings start.history + openings added + missingReports added ≤ 1 := by
  have hsingle := t.single
  have hunended := t.unended
  rw [g.history, endings_append] at hsingle hunended
  rcases g.balanced with ⟨⟨i, hi⟩, hsum⟩ | ⟨-, hsum⟩
  · have := hunended i (.inr hi)
    omega
  · omega

/-- A record that is at its end is so by its history. -/
theorem isConcluded_of_isSettled (g : Grown start added c w) (hstart : start.IsSettled)
    (hfin : c.isFinalized = true) : c.IsConcluded := by
  by_cases hsame : added = [] ∨ statusOf c.history = none
  · have hstatus : c.status = start.status := g.status hsame
    obtain ⟨r, hr, ht, hs⟩ := hstart.concluded (by rwa [Container.isFinalized, ← hstatus])
    refine ⟨r, ?_, ht, hstatus.trans hs⟩
    rcases hsame with rfl | hnone
    · rwa [g.history, List.append_nil]
    · -- the history led to a status at the start, and still does
      have hsome : (statusOf (start.history ++ added)).isSome = true :=
        isSome_statusOf_append added (by rw [hr]; rfl)
      rw [← g.history, hnone] at hsome
      cases hsome
  · rw [not_or] at hsame
    obtain ⟨r, hr⟩ := Option.ne_none_iff_exists'.1 hsame.2
    have hstatus : c.status = r.1 := g.faithful hsame.1 r hr
    exact ⟨r, hr, by rwa [← hstatus], hstatus⟩

theorem endings_le (g : Grown start added c w) :
    endings added ≤ openings added + missingReports added := by
  rcases g.balanced with ⟨-, h⟩ | ⟨-, h⟩
  · omega
  · omega

/-- Where at most one ending is written or to be written, an end is final. -/
theorem final (g : Grown start added c w) (g' : Grown start (added ++ more) d w')
    (hstart : start.IsSettled)
    (hsum : endings start.history + openings (added ++ more) + missingReports (added ++ more) ≤ 1) :
    (c.isFinalized = true → d.status = c.status) ∧ endings d.history ≤ 1 := by
  have hbalance' := g'.endings_le
  constructor
  · intro hfin
    obtain ⟨r, hr, ht, hs⟩ := g.isConcluded_of_isSettled hstart hfin
    have hended : endings c.history ≠ 0 := endings_ne_zero_of_isConcluded ⟨r, hr, ht, hs⟩
    rw [g.history, endings_append] at hended
    rw [openings_append, missingReports_append, endings_append] at *
    -- the ending was written, so that nothing later is one or begins a finalization
    have hnone : endings more = 0 ∧ openings more = 0 := by
      rcases g.balanced with ⟨-, h⟩ | ⟨-, h⟩
      · omega
      · omega
    -- what is left among the entries is inert
    have hinert : ∀ e ∈ more, e.isInert = true := by
      intro e he
      rcases g'.kinds e (List.mem_append_right _ he) with h | h | h
      · exact h
      · exact absurd h (List.countP_eq_zero.1 hnone.1 e he)
      · exact absurd h (List.countP_eq_zero.1 hnone.2 e he)
    have hd : statusOf d.history = some r := by
      rw [g'.history, ← List.append_assoc, ← g.history]
      exact statusOf_append_of_inert hr ht hinert
    by_cases hadded : added ++ more = []
    · rw [g'.status (.inl hadded), g.status (.inl (List.append_eq_nil_iff.1 hadded).1)]
    · exact (g'.faithful hadded r hd).trans hs.symm
  · rw [g'.history, endings_append]
    omega

end Grown

end Watch

/-! ## Runs of a tracker -/

namespace Pool

variable {σ : Type} {s : Surroundings σ} {p : Pool σ} {store : Store} {outside : σ}
  {moves : List (Move σ)} {id : Int} {c d : Container} {added : List HistoryEntry}

/-- Whether in a run the record of an identifier keeps a terminal status that it reached, and its
history never comes to have two entries of this system that bring it to its end. -/
def StaysSettled (s : Surroundings σ) (p : Pool σ) (moves : List (Move σ)) (id : Int) : Prop :=
  ∀ earlier later q r c d, (earlier ++ later) <+: moves →
    p.follow? s earlier = some q → q.follow? s later = some r →
    q.record? id = some c → r.record? id = some d →
    (c.isFinalized = true → d.status = c.status) ∧ endings d.history ≤ 1

/-- Where at most one ending is written or to be written in a run, the run settles the record. -/
theorem staysSettled_of_le (hs : s.Saves)
    (hrun : (fresh store outside).follow? s moves = some p) (hc : store.get? id = some c)
    (hstart : c.IsSettled) (hd : p.record? id = some d) (hadded : d.history = c.history ++ added)
    (hsum : endings c.history + openings added + missingReports added ≤ 1) :
    StaysSettled s (fresh store outside) moves id := by
  rintro earlier later q r cq cr ⟨rest, rfl⟩ hq hr hcq hcr
  have hrest : r.follow? s rest = some p := by
    rwa [follow?_append, follow?_append_of_eq hq hr] at hrun
  have hshows := Shows.fresh store outside id
  -- the run has three parts: up to the one point, up to the other, and the rest
  obtain ⟨wq, hsteps, hwq⟩ := hshows.follow hs hq
  obtain ⟨wr, hsteps', hwr⟩ := hwq.follow hs hr
  obtain ⟨wp, hsteps'', hwp⟩ := hwr.follow hs hrest
  obtain ⟨c₁, added₁, g₁⟩ := (Watch.Grown.initial hc).follow hshows.sound hsteps
  obtain ⟨c₂, added₂, g₂⟩ := g₁.follow hwq.sound hsteps'
  obtain ⟨c₃, added₃, g₃⟩ := g₂.follow hwr.sound hsteps''
  obtain rfl : c₁ = cq := Option.some.inj (g₁.record.symm.trans (hwq.world.record.trans hcq))
  obtain rfl : c₂ = cr := Option.some.inj (g₂.record.symm.trans (hwr.world.record.trans hcr))
  obtain rfl : c₃ = d := Option.some.inj (g₃.record.symm.trans (hwp.world.record.trans hd))
  -- what the whole run adds is what its parts add
  have hparts : added = [] ++ added₁ ++ added₂ ++ added₃ :=
    List.append_cancel_left (hadded.symm.trans g₃.history)
  rw [hparts, openings_append, missingReports_append] at hsum
  exact g₁.final g₂ hstart (by omega)

/-- A run settles a record if nothing is reported missing, or if one report is all that brings the
record to its end. When all tasks are over there are no other runs that do. -/
theorem staysSettled_iff (hs : s.Saves) (hrun : (fresh store outside).follow? s moves = some p)
    (hc : store.get? id = some c) (hstart : c.IsSettled) :
    ∃ d added, p.record? id = some d ∧ d.history = c.history ++ added ∧
      ((missingReports added = 0 ∨
          missingReports added = 1 ∧ openings added = 0 ∧ endings c.history = 0) →
        StaysSettled s (fresh store outside) moves id) ∧
      (p.isQuiet = true → StaysSettled s (fresh store outside) moves id →
        missingReports added = 0 ∨
          missingReports added = 1 ∧ openings added = 0 ∧ endings c.history = 0) := by
  have hshows := Shows.fresh store outside id
  obtain ⟨w, hsteps, hw⟩ := hshows.follow hs hrun
  have g := Watch.Grown.initial hc
  obtain ⟨d, added, g'⟩ := g.follow hshows.sound hsteps
  rw [List.nil_append] at g'
  have hd : p.record? id = some d := hw.world.record.symm.trans g'.record
  refine ⟨d, added, hd, g'.history, ?_, ?_⟩
  · intro hreports
    apply staysSettled_of_le hs hrun hc hstart hd g'.history
    rcases hreports with hnone | ⟨hone, hopen, hend⟩
    · exact g'.endings_of_isTidy (g.isTidy_follow (.initial hstart _)
        hshows.sound hsteps g' hnone)
    · omega
  · intro hquiet hsettled
    have hall : moves ++ [] <+: moves := ⟨[], by rw [List.append_nil, List.append_nil]⟩
    obtain ⟨-, hsingle⟩ := hsettled moves [] p p d d hall hrun rfl hd hd
    rw [g'.history, endings_append] at hsingle
    -- nothing is under way any more, so that every finalization and every report left its ending
    rcases g'.balanced with ⟨⟨i, hi⟩, -⟩ | ⟨-, hsum⟩
    · rw [hw.phase_of_isQuiet hquiet i] at hi
      cases hi
    · omega

/-! ## A late report -/

/-- The task of the service is complete, and the service is finalized. -/
def completion : List (Move Unit) :=
  .call (.handle (.task 1 ⟨"s1", "t1", "n1", "complete", some ⟨0, 0⟩, none, none, none⟩)) ::
    (List.replicate 5 (.advance 0) ++ List.replicate 8 (.advance 1))

/-- The service is reported missing, as it was when it was polled before. -/
def lateReport : List (Move Unit) :=
  .call (.handle (.missing 1)) :: List.replicate 3 (.advance 2)

/-- What the completion of the service comes to. -/
def completed : Pool Unit :=
  ((fresh serviceStore ()).follow? .still completion).get (by decide +kernel)

/-- What the late report comes to. -/
def reported : Pool Unit :=
  (completed.follow? .still lateReport).get (by decide +kernel)

theorem follow_completion :
    (fresh serviceStore ()).follow? .still completion = some completed :=
  (Option.some_get _).symm

theorem follow_lateReport : completed.follow? .still lateReport = some reported :=
  (Option.some_get _).symm

/-- A late report changes the status of a service that is complete. -/
theorem not_staysSettled_of_lateReport :
    ¬ StaysSettled .still (fresh serviceStore ()) (completion ++ lateReport) 1 := by
  intro h
  obtain ⟨c, hc⟩ := Option.isSome_iff_exists.1 (show (completed.record? 1).isSome by decide +kernel)
  obtain ⟨d, hd⟩ := Option.isSome_iff_exists.1 (show (reported.record? 1).isSome by decide +kernel)
  have hcomplete : (completed.record? 1).all fun c => c.status = .complete := by decide +kernel
  have hfailed : (reported.record? 1).all fun d => d.status = .failed := by decide +kernel
  have hcs : c.status = .complete := by simpa [hc] using hcomplete
  have hds : d.status = .failed := by simpa [hd] using hfailed
  obtain ⟨hstatus, -⟩ := h completion lateReport completed reported c d List.prefix_rfl
    follow_completion follow_lateReport hc hd
  rw [hcs, hds] at hstatus
  exact absurd (hstatus (by rw [Container.isFinalized, hcs]; rfl)) (by decide)

theorem service_isSettled : service.IsSettled where
  concluded h := absurd h (by decide +kernel)
  single := by decide +kernel
  ended h := absurd h (by decide +kernel)

theorem lateReport_staysSettled_iff :
    (fresh serviceStore ()).follow? .still (completion ++ lateReport) = some reported ∧
      serviceStore.get? 1 = some service ∧ service.IsSettled ∧ reported.isQuiet = true ∧
      ∃ d added, reported.record? 1 = some d ∧ d.history = service.history ++ added ∧
        (StaysSettled .still (fresh serviceStore ()) (completion ++ lateReport) 1 →
          missingReports added = 0 ∨
            missingReports added = 1 ∧ openings added = 0 ∧ endings service.history = 0) := by
  have hrun := follow?_append_of_eq follow_completion follow_lateReport
  have hquiet : reported.isQuiet = true := by decide +kernel
  obtain ⟨d, added, hd, hadded, -, honly⟩ :=
    staysSettled_iff Surroundings.still_saves hrun get?_serviceStore service_isSettled
  exact ⟨hrun, get?_serviceStore, service_isSettled, hquiet, d, added, hd, hadded, honly hquiet⟩

end Pool

end Tracker

end Mooring
