import Mathlib.Logic.Function.Basic
import Mathlib.Logic.Relation
import Mooring.Proofs.Lifecycle.Calls

set_option autoImplicit false

/-!
# One record among many calls

What matters of a pool for the record of one identifier is the record, whether its lock is taken,
how often the finalizer was called for it, and the phase that each task is in. `Watch.Step` lists
what can happen to it, and the invariants follow from that list alone. `Sound` holds the mutual
exclusion of finalizations and what is known of calls of the finalizer. `Grown` accounts for the
entries that were added to a history: an exit among them is followed up, and every ending among them
belongs to a finalization that was begun or to a report that the service is gone.
-/

namespace Mooring.Tracker

/-! ## Counting entries -/

/-- How many entries of a history bring the container to its end. -/
def endings (history : List HistoryEntry) : Nat :=
  history.countP HistoryEntry.isEnding

/-- How many finalizations a history begins. -/
def openings (history : List HistoryEntry) : Nat :=
  history.countP HistoryEntry.isOpening

/-- How often a history reports that the service is gone. -/
def missingReports (history : List HistoryEntry) : Nat :=
  history.countP HistoryEntry.isMissingReport

@[simp] theorem endings_append (earlier later : List HistoryEntry) :
    endings (earlier ++ later) = endings earlier + endings later :=
  List.countP_append

@[simp] theorem openings_append (earlier later : List HistoryEntry) :
    openings (earlier ++ later) = openings earlier + openings later :=
  List.countP_append

@[simp] theorem missingReports_append (earlier later : List HistoryEntry) :
    missingReports (earlier ++ later) = missingReports earlier + missingReports later :=
  List.countP_append

/-- An entry that is observed counts as nothing. -/
theorem counts_of_ne_system {e : HistoryEntry} (h : e.origin ≠ .system) :
    endings [e] = 0 ∧ openings [e] = 0 ∧ missingReports [e] = 0 := by
  have he := HistoryEntry.isEnding_of_ne_system h
  have ho := HistoryEntry.isOpening_of_ne_system h
  simp [endings, openings, missingReports, HistoryEntry.isMissingReport, he, ho]

theorem counts_of_isOpening {e : HistoryEntry} (h : e.isOpening = true) :
    endings [e] = 0 ∧ openings [e] = 1 ∧ missingReports [e] = 0 := by
  have he := HistoryEntry.isEnding_of_isOpening h
  simp [endings, openings, missingReports, HistoryEntry.isMissingReport, he, h]

theorem counts_of_isEnding {e : HistoryEntry} (h : e.isEnding = true) :
    endings [e] = 1 ∧ openings [e] = 0 ∧
      missingReports [e] = if e.isMissingReport then 1 else 0 := by
  have ho : e.isOpening = false := by
    by_contra ho
    rw [HistoryEntry.isEnding_of_isOpening (by simpa using ho)] at h
    cases h
  simp [endings, openings, missingReports, ho, h, List.countP_cons]

/-! ## What can happen to a record -/

/-- What of a pool matters for the record of one identifier. -/
structure Watch where
  record : Option Container
  locked : Bool
  calls : Nat
  phase : Nat → Phase

namespace Watch

/-- The watch when no call has been made. -/
def initial (record : Option Container) : Watch :=
  { record, locked := false, calls := 0, phase := fun _ => .free }

/-- A task goes into another phase. -/
def enter (w : Watch) (i : Nat) (phase : Phase) : Watch :=
  { w with phase := Function.update w.phase i phase }

/-- The record is another. -/
def become (w : Watch) (c : Container) : Watch :=
  { w with record := some c }

/-- The lock is taken or given back. -/
def setLocked (w : Watch) (locked : Bool) : Watch :=
  { w with locked }

/-- The finalizer is called once more. -/
def countCall (w : Watch) : Watch :=
  { w with calls := w.calls + 1 }

section Fields

variable (w : Watch) (i j : Nat) (phase : Phase) (c : Container) (locked : Bool)

@[simp, grind =] theorem record_enter : (w.enter i phase).record = w.record := rfl
@[simp, grind =] theorem locked_enter : (w.enter i phase).locked = w.locked := rfl
@[simp, grind =] theorem calls_enter : (w.enter i phase).calls = w.calls := rfl
@[simp, grind =] theorem record_become : (w.become c).record = some c := rfl
@[simp, grind =] theorem locked_become : (w.become c).locked = w.locked := rfl
@[simp, grind =] theorem calls_become : (w.become c).calls = w.calls := rfl
@[simp, grind =] theorem phase_become : (w.become c).phase i = w.phase i := rfl
@[simp, grind =] theorem record_setLocked : (w.setLocked locked).record = w.record := rfl
@[simp, grind =] theorem locked_setLocked : (w.setLocked locked).locked = locked := rfl
@[simp, grind =] theorem calls_setLocked : (w.setLocked locked).calls = w.calls := rfl
@[simp, grind =] theorem phase_setLocked : (w.setLocked locked).phase i = w.phase i := rfl
@[simp, grind =] theorem record_countCall : w.countCall.record = w.record := rfl
@[simp, grind =] theorem locked_countCall : w.countCall.locked = w.locked := rfl
@[simp, grind =] theorem calls_countCall : w.countCall.calls = w.calls + 1 := rfl
@[simp, grind =] theorem phase_countCall : w.countCall.phase i = w.phase i := rfl

@[simp] theorem phase_enter_self : (w.enter i phase).phase i = phase :=
  Function.update_self ..

@[grind =] theorem phase_enter :
    (w.enter i phase).phase j = if j = i then phase else w.phase j :=
  Function.update_apply ..

end Fields

theorem phase_eq_ite (w : Watch) (i j : Nat) :
    w.phase j = if j = i then w.phase i else w.phase j := by
  split
  · next h => rw [h]
  · rfl

/-- Going into the phase in which a task is changes nothing. -/
theorem enter_of_eq {w : Watch} {i : Nat} {phase : Phase} {c : Container}
    (h : w.phase i = phase) : (w.become c).enter i phase = w.become c := by
  unfold enter
  rw [← h, ← phase_become w i c, Function.update_eq_self]

/-- What can happen to the record of an identifier, one action or one handing over at a time. -/
inductive Step : Watch → Watch → Prop
  | aside {w : Watch} : Step w w
  | change {w : Watch} {c d : Container} (record : w.record = some c)
      (status : d.status = c.status) (history : d.history = c.history) : Step w (w.become d)
  | observe {w : Watch} {c d : Container} {e : HistoryEntry} (record : w.record = some c)
      (append : c.append? e = some d) (origin : e.origin ≠ .system)
      (exit : e.signalsExit = false) : Step w (w.become d)
  | report {w : Watch} {i : Nat} {c d : Container} {e : HistoryEntry} (phase : w.phase i = .free)
      (record : w.record = some c) (append : c.append? e = some d) (origin : e.origin ≠ .system) :
      Step w ((w.become d).enter i .owing)
  | missing {w : Watch} {c d : Container} {e : HistoryEntry} (record : w.record = some c)
      (append : c.append? e = some d) (missing : e.isMissingReport = true) : Step w (w.become d)
  | lock {w : Watch} {i : Nat} (phase : w.phase i = .free ∨ w.phase i = .owing)
      (unlocked : w.locked = false) : Step w ((w.setLocked true).enter i .entered)
  | skip {w : Watch} {i : Nat} (phase : w.phase i = .entered)
      (finalized : ∀ c, w.record = some c → c.isFinalized = true) : Step w (w.enter i .left)
  | clear {w : Watch} {i : Nat} {c : Container} (phase : w.phase i = .entered)
      (record : w.record = some c) (running : c.isFinalized = false) :
      Step w (w.enter i .cleared)
  | begin {w : Watch} {i : Nat} {c d : Container} {e : HistoryEntry}
      (phase : w.phase i = .cleared) (record : w.record = some c) (append : c.append? e = some d)
      (opening : e.isOpening = true) : Step w ((w.become d).enter i .opened)
  | call {w : Watch} {i : Nat} (phase : w.phase i = .opened) :
      Step w (w.countCall.enter i .called)
  | conclude {w : Watch} {i : Nat} {c d : Container} {e : HistoryEntry}
      (phase : w.phase i = .called) (record : w.record = some c) (append : c.append? e = some d)
      (ending : e.isEnding = true) (other : e.isMissingReport = false) :
      Step w ((w.become d).enter i .left)
  | unlock {w : Watch} {i : Nat} (phase : w.phase i = .left) :
      Step w ((w.setLocked false).enter i .free)
  | hand {w : Watch} {i j : Nat} (giver : w.phase i = .owing) (taker : w.phase j = .free) :
      Step w ((w.enter i .free).enter j .owing)

/-! ## Finalizations exclude each other -/

/-- What is known of the locks and of the calls of the finalizer. Fields are in dependency order. -/
structure Sound (w : Watch) : Prop where
  alone : ∀ i j, (w.phase i).holds = true → (w.phase j).holds = true → i = j
  locked : ∀ i, (w.phase i).holds = true → w.locked = true
  known : ∀ i, (w.phase i).needsRecord = true → w.record.isSome = true
  spent : w.calls = 0 ∨ w.calls = 1 ∧
    ((∃ i, w.phase i = .called) ∨ ∃ c, w.record = some c ∧ c.IsConcluded)
  unspent : ∀ i, w.phase i = .cleared ∨ w.phase i = .opened → w.calls = 0

variable {w w' : Watch}

/-- A record at its end stays there in every step that does not begin a finalization. -/
theorem isConcluded_step (h : Step w w') {c : Container} (hc : w.record = some c)
    (hend : c.IsConcluded) (hcleared : ∀ i, w.phase i ≠ .cleared) :
    ∃ d, w'.record = some d ∧ d.IsConcluded := by
  have stays : ∀ {c' d : Container} {e : HistoryEntry}, w.record = some c' →
      c'.append? e = some d → e.isInert = true → d.IsConcluded := by
    intro c' d e hc' ha he
    obtain rfl := Option.some.inj (hc.symm.trans hc')
    exact (hend.of_isInert ha he).1
  cases h with
  | aside => exact ⟨c, hc, hend⟩
  | change record status history =>
    obtain rfl := Option.some.inj (hc.symm.trans record)
    obtain ⟨r, hr, ht, hs⟩ := hend
    exact ⟨_, rfl, r, by rw [history]; exact hr, ht, by rw [status]; exact hs⟩
  | observe record append origin =>
    exact ⟨_, rfl, stays record append (HistoryEntry.isInert_of_ne_system origin)⟩
  | report _ record append origin =>
    exact ⟨_, rfl, stays record append (HistoryEntry.isInert_of_ne_system origin)⟩
  | missing record append missing =>
    exact ⟨_, rfl, Container.isConcluded_of_isEnding append
      (HistoryEntry.isEnding_of_isMissingReport missing)⟩
  | begin phase => exact absurd phase (hcleared _)
  | conclude _ record append ending =>
    exact ⟨_, rfl, Container.isConcluded_of_isEnding append ending⟩
  | lock | skip | clear | call | unlock | hand => exact ⟨c, hc, hend⟩

namespace Sound

theorem initial (record : Option Container) : (Watch.initial record).Sound where
  alone _ _ h := nomatch h
  locked _ h := nomatch h
  known _ h := nomatch h
  spent := .inl rfl
  unspent _ _ := rfl

theorem preserve_alone (inv : w.Sound) (h : Step w w') :
    ∀ i j, (w'.phase i).holds = true → (w'.phase j).holds = true → i = j := by
  have alone := inv.alone
  have locked := inv.locked
  -- a lock is taken only when nobody holds it, and no other step makes a new holder
  cases h <;> grind [Phase.holds]

theorem preserve_locked (inv : w.Sound) (h : Step w w') :
    ∀ i, (w'.phase i).holds = true → w'.locked = true := by
  have alone := inv.alone
  have locked := inv.locked
  -- the lock is given back by its only holder
  cases h <;> grind [Phase.holds]

theorem preserve_known (inv : w.Sound) (h : Step w w') :
    ∀ i, (w'.phase i).needsRecord = true → w'.record.isSome = true := by
  have known := inv.known
  cases h <;> grind [Phase.needsRecord]

/-- The finalizer is called by a task that holds the lock, and from then on either this task has
still to conclude the record, or the record is at its end. -/
theorem preserve_spent (inv : w.Sound) (h : Step w w') :
    w'.calls = 0 ∨ w'.calls = 1 ∧
      ((∃ i, w'.phase i = .called) ∨ ∃ c, w'.record = some c ∧ c.IsConcluded) := by
  have alone := inv.alone
  have unspent := inv.unspent
  by_cases hcall : w'.calls = w.calls
  · rcases inv.spent with hzero | ⟨hone, ⟨i, hi⟩ | ⟨c, hc, hend⟩⟩
    · exact .inl (hcall.trans hzero)
    · -- the task that called the finalizer stays where it is, or concludes the record
      refine .inr ⟨hcall.trans hone, ?_⟩
      cases h with
      | conclude _ record append ending =>
        exact .inr ⟨_, rfl, Container.isConcluded_of_isEnding append ending⟩
      | _ => exact .inl ⟨i, by grind⟩
    · -- nobody is about to begin another finalization
      refine .inr ⟨hcall.trans hone, .inr (isConcluded_step h hc hend fun j hj => ?_)⟩
      have := unspent j (.inl hj)
      omega
  · cases h with
    | call phase =>
      have := unspent _ (.inr phase)
      exact .inr ⟨by simp [this], .inl ⟨_, phase_enter_self ..⟩⟩
    | _ => exact absurd rfl hcall

/-- Who saw a record that was not at its end, and holds the lock, is the first to finalize it. -/
theorem preserve_unspent (inv : w.Sound) (h : Step w w') :
    ∀ i, w'.phase i = .cleared ∨ w'.phase i = .opened → w'.calls = 0 := by
  have alone := inv.alone
  have unspent := inv.unspent
  intro j hj
  cases h with
  | @clear i c phase record running =>
    rcases inv.spent with hzero | ⟨-, ⟨k, hk⟩ | ⟨d, hd, hend⟩⟩
    · exact hzero
    · -- whoever called the finalizer would hold the lock as well
      have := alone i k (by rw [phase]; rfl) (by rw [hk]; rfl)
      grind
    · -- the record that was looked at would be at its end
      obtain rfl := Option.some.inj (record.symm.trans hd)
      rw [hend.isFinalized] at running
      cases running
  | @call i phase =>
    have := alone i j (by rw [phase]; rfl)
    grind [Phase.holds]
  | _ => grind

theorem preserve (inv : w.Sound) (h : Step w w') : w'.Sound where
  alone := inv.preserve_alone h
  locked := inv.preserve_locked h
  known := inv.preserve_known h
  spent := inv.preserve_spent h
  unspent := inv.preserve_unspent h

end Sound

/-! ## What is added to a history -/

/-- Whether a finalization of the record has begun and not ended. -/
def IsUnderWay (w : Watch) : Prop :=
  ∃ i, (w.phase i).isUnderWay = true

/-- Whether a task will see to it that the record comes to its end. -/
def IsBound (w : Watch) : Prop :=
  ∃ i, (w.phase i).isBound = true

/-- Whether the endings among added entries are those of the finalizations that were begun, but for
one under way, and of the reports that the service is gone. -/
def IsBalanced (w : Watch) (added : List HistoryEntry) : Prop :=
  (w.IsUnderWay ∧ endings added + 1 = openings added + missingReports added) ∨
    (¬ w.IsUnderWay ∧ endings added = openings added + missingReports added)

section Entering

variable {i : Nat} {phase : Phase}

theorem isBound_enter (h : phase.isBound = true) : (w.enter i phase).IsBound :=
  ⟨i, by rw [phase_enter_self]; exact h⟩

theorem isUnderWay_enter (h : phase.isUnderWay = true) : (w.enter i phase).IsUnderWay :=
  ⟨i, by rw [phase_enter_self]; exact h⟩

theorem isBound_enter_iff (h : phase.isBound = (w.phase i).isBound) :
    (w.enter i phase).IsBound ↔ w.IsBound := by
  apply exists_congr
  intro j
  grind

theorem isUnderWay_enter_iff (h : phase.isUnderWay = (w.phase i).isUnderWay) :
    (w.enter i phase).IsUnderWay ↔ w.IsUnderWay := by
  apply exists_congr
  intro j
  grind

/-- A finalization that is under way belongs to who holds the lock. -/
theorem Sound.not_isUnderWay (inv : w.Sound) (hi : (w.phase i).holds = true)
    (hphase : (w.phase i).isUnderWay = false) : ¬ w.IsUnderWay := by
  rintro ⟨j, hj⟩
  obtain rfl : j = i := inv.alone j i (Phase.holds_of_isUnderWay hj) hi
  rw [hphase] at hj
  cases hj

theorem Sound.not_isUnderWay_enter (inv : w.Sound) (hi : (w.phase i).holds = true)
    (hphase : phase.isUnderWay = false) : ¬ (w.enter i phase).IsUnderWay := by
  rintro ⟨j, hj⟩
  by_cases hji : j = i
  · rw [hji, phase_enter_self, hphase] at hj
    cases hj
  · rw [phase_enter, if_neg hji] at hj
    exact hji (inv.alone j i (Phase.holds_of_isUnderWay hj) hi)

end Entering

/-- What is known of a record that was `start` when the calls began, and has become `c` since. -/
structure Grown (start : Container) (added : List HistoryEntry) (c : Container) (w : Watch) :
    Prop where
  record : w.record = some c
  history : c.history = start.history ++ added
  status : added = [] ∨ statusOf c.history = none → c.status = start.status
  faithful : added ≠ [] → c.IsFaithful
  kinds : ∀ e ∈ added, e.isInert = true ∨ e.isEnding = true ∨ e.isOpening = true
  followed : (∃ e ∈ added, e.signalsExit = true) → c.IsConcluded ∨ w.IsBound
  balanced : w.IsBalanced added

namespace Grown

variable {start c d : Container} {added : List HistoryEntry} {e : HistoryEntry}

/-- At the start nothing is added. -/
theorem initial {record : Option Container} (h : record = some c) :
    Grown c [] c (Watch.initial record) where
  record := h
  history := (List.append_nil _).symm
  status _ := rfl
  faithful h := absurd rfl h
  kinds _ h := absurd h List.not_mem_nil
  followed := fun ⟨_, h, _⟩ => absurd h List.not_mem_nil
  balanced := .inr ⟨(fun ⟨_, h⟩ => nomatch h), rfl⟩

/-- A step that adds no entry. -/
theorem keep (g : Grown start added c w) (hr : w'.record = some d) (hs : d.status = c.status)
    (hh : d.history = c.history) (hfollowed : c.IsConcluded ∨ w.IsBound →
      (∃ e ∈ added, e.signalsExit = true) → c.IsConcluded ∨ w'.IsBound)
    (hway : w'.IsUnderWay ↔ w.IsUnderWay) : Grown start added d w' where
  record := hr
  history := hh.trans g.history
  status h := hs.trans (g.status (h.imp_right fun hnone => hh ▸ hnone))
  faithful h r hstatus := by
    rw [hs]
    exact g.faithful h r (hh ▸ hstatus)
  kinds := g.kinds
  followed h := by
    rcases hfollowed (g.followed h) h with ⟨r, hr, ht, hcs⟩ | hb
    · exact .inl ⟨r, hh ▸ hr, ht, hs.trans hcs⟩
    · exact .inr hb
  balanced := by
    unfold IsBalanced
    rw [hway]
    exact g.balanced

/-- A step that adds an entry. -/
theorem add (g : Grown start added c w) (ha : c.append? e = some d) (hr : w'.record = some d)
    (hkind : e.isInert = true ∨ e.isEnding = true ∨ e.isOpening = true)
    (hfollowed : (∃ e' ∈ added ++ [e], e'.signalsExit = true) → d.IsConcluded ∨ w'.IsBound)
    (hbalanced : w'.IsBalanced (added ++ [e])) :
    Grown start (added ++ [e]) d w' where
  record := hr
  history := by
    rw [Container.history_of_append? ha, g.history, List.append_assoc]
  status h := by
    have hnone : statusOf d.history = none := h.resolve_left (by simp)
    rw [Container.status_of_append? ha, hnone]
    refine g.status (.inr ?_)
    -- a history that leads to no status led to none before
    cases hbefore : statusOf c.history with
    | none => rfl
    | some r =>
      have hsome : (nextStatus (some r) e).isSome = true := isSome_nextStatus e rfl
      rw [← hbefore, ← Container.statusOf_of_append? ha, hnone] at hsome
      cases hsome
  faithful _ := Container.isFaithful_of_append? ha
  kinds e' he' := by
    rcases List.mem_append.1 he' with hm | hm
    · exact g.kinds e' hm
    · rw [List.mem_singleton.1 hm]
      exact hkind
  followed := hfollowed
  balanced := hbalanced

/-- A record that is at its end when it is looked at is so by its history, once an exit was
recorded. -/
theorem isConcluded (g : Grown start added c w) (hfin : c.isFinalized = true)
    (hexit : ∃ e ∈ added, e.signalsExit = true) : c.IsConcluded := by
  obtain ⟨e, he, hs⟩ := hexit
  have hmem : e ∈ c.history := by
    rw [g.history]
    exact List.mem_append_right _ he
  obtain ⟨r, hr⟩ := Option.isSome_iff_exists.1 (Container.isSome_statusOf_of_signalsExit hmem hs)
  have hstatus : c.status = r.1 := g.faithful (List.ne_nil_of_mem he) r hr
  refine ⟨r, hr, ?_, hstatus⟩
  rw [← hstatus]
  exact hfin

/-- What is observed leaves the account as it is. -/
theorem isBalanced_of_ne_system (g : Grown start added c w) (ho : e.origin ≠ .system)
    (hway : w'.IsUnderWay ↔ w.IsUnderWay) : w'.IsBalanced (added ++ [e]) := by
  obtain ⟨hend, hopen, hmiss⟩ := counts_of_ne_system ho
  unfold IsBalanced
  rw [hway, endings_append, openings_append, missingReports_append, hend, hopen, hmiss]
  exact g.balanced

/-- A finalization that begins while none is under way has its ending still to come. -/
theorem isBalanced_of_isOpening (g : Grown start added c w) (he : e.isOpening = true)
    (hbefore : ¬ w.IsUnderWay) (hafter : w'.IsUnderWay) : w'.IsBalanced (added ++ [e]) := by
  obtain ⟨hend, hopen, hmiss⟩ := counts_of_isOpening he
  rcases g.balanced with ⟨h, -⟩ | ⟨-, h⟩
  · exact absurd h hbefore
  · refine .inl ⟨hafter, ?_⟩
    rw [endings_append, openings_append, missingReports_append, hend, hopen, hmiss]
    omega

/-- An ending belongs to a finalization that was under way, or reports that the service is gone. -/
theorem isBalanced_of_isEnding (g : Grown start added c w) (he : e.isEnding = true)
    (hway : (e.isMissingReport = true ∧ (w'.IsUnderWay ↔ w.IsUnderWay)) ∨
      (e.isMissingReport = false ∧ w.IsUnderWay ∧ ¬ w'.IsUnderWay)) :
    w'.IsBalanced (added ++ [e]) := by
  obtain ⟨hend, hopen, hmiss⟩ := counts_of_isEnding he
  have hold := g.balanced
  unfold IsBalanced at hold ⊢
  rw [endings_append, openings_append, missingReports_append, hend, hopen, hmiss]
  rcases hway with ⟨hm, hiff⟩ | ⟨hm, hbefore, hafter⟩
  · rw [hiff, if_pos hm]
    exact hold.imp (fun ⟨h, hsum⟩ => ⟨h, by omega⟩) fun ⟨h, hsum⟩ => ⟨h, by omega⟩
  · rw [if_neg (by simp [hm])]
    refine .inr ⟨hafter, ?_⟩
    rcases hold with ⟨-, h⟩ | ⟨h, -⟩
    · omega
    · exact absurd hbefore h

/-- What every step adds to the history, and what it leaves to be done. -/
theorem step (g : Grown start added c w) (inv : w.Sound) (h : Step w w') :
    ∃ d more, Grown start (added ++ more) d w' := by
  have same : ∀ {c' : Container}, w.record = some c' → c' = c := fun hr =>
    Option.some.inj (hr.symm.trans g.record)
  have still : ∀ w' : Watch, w'.record = w.record →
      (c.IsConcluded ∨ w.IsBound → (∃ e ∈ added, e.signalsExit = true) →
        c.IsConcluded ∨ w'.IsBound) →
      (w'.IsUnderWay ↔ w.IsUnderWay) → ∃ d more, Grown start (added ++ more) d w' := by
    intro w' hr hfollowed hway
    refine ⟨c, [], ?_⟩
    rw [List.append_nil]
    exact g.keep (hr.trans g.record) rfl rfl hfollowed hway
  cases h with
  | aside => exact still w rfl (fun h _ => h) Iff.rfl
  | @change c' d record status history =>
    obtain rfl := same record
    refine ⟨d, [], ?_⟩
    rw [List.append_nil]
    exact g.keep rfl status history (fun h _ => h) Iff.rfl
  | observe record append origin exit =>
    obtain rfl := same record
    refine ⟨_, [_], g.add append rfl (.inl (HistoryEntry.isInert_of_ne_system origin)) ?_
      (g.isBalanced_of_ne_system origin Iff.rfl)⟩
    rintro ⟨e', he', hexit⟩
    -- the entry is no exit, so that the exit was there before
    have hmem : e' ∈ added := by
      rcases List.mem_append.1 he' with hm | hm
      · exact hm
      · rw [List.mem_singleton.1 hm, exit] at hexit
        cases hexit
    rcases g.followed ⟨e', hmem, hexit⟩ with hc | hb
    · exact .inl (hc.of_isInert append (HistoryEntry.isInert_of_ne_system origin)).1
    · exact .inr hb
  | report phase record append origin =>
    obtain rfl := same record
    -- the task that recorded the exit is the one that is bound
    exact ⟨_, [_], g.add append rfl (.inl (HistoryEntry.isInert_of_ne_system origin))
      (fun _ => .inr (isBound_enter rfl))
      (g.isBalanced_of_ne_system origin (isUnderWay_enter_iff (by rw [phase_become, phase]; rfl)))⟩
  | missing record append missing =>
    obtain rfl := same record
    -- an ending that no finalization wrote
    have hend := HistoryEntry.isEnding_of_isMissingReport missing
    exact ⟨_, [_], g.add append rfl (.inr (.inl hend))
      (fun _ => .inl (Container.isConcluded_of_isEnding append hend))
      (g.isBalanced_of_isEnding hend (.inl ⟨missing, Iff.rfl⟩))⟩
  | lock phase unlocked =>
    refine still _ rfl (fun _ _ => .inr (isBound_enter rfl)) (isUnderWay_enter_iff ?_)
    rw [phase_setLocked]
    rcases phase with hp | hp <;> rw [hp] <;> rfl
  | skip phase finalized =>
    exact still _ rfl (fun _ hexit => .inl (g.isConcluded (finalized c g.record) hexit))
      (isUnderWay_enter_iff (by rw [phase]; rfl))
  | clear phase record running =>
    exact still _ rfl (fun _ _ => .inr (isBound_enter rfl))
      (isUnderWay_enter_iff (by rw [phase]; rfl))
  | begin phase record append opening =>
    obtain rfl := same record
    -- no other finalization can have been under way
    have hbefore : ¬ w.IsUnderWay := inv.not_isUnderWay (by rw [phase]; rfl) (by rw [phase]; rfl)
    exact ⟨_, [_], g.add append rfl (.inr (.inr opening)) (fun _ => .inr (isBound_enter rfl))
      (g.isBalanced_of_isOpening opening hbefore (isUnderWay_enter rfl))⟩
  | call phase =>
    exact still _ rfl (fun _ _ => .inr (isBound_enter rfl))
      (isUnderWay_enter_iff (by rw [phase_countCall, phase]; rfl))
  | conclude phase record append ending other =>
    obtain rfl := same record
    exact ⟨_, [_], g.add append rfl (.inr (.inl ending))
      (fun _ => .inl (Container.isConcluded_of_isEnding append ending))
      (g.isBalanced_of_isEnding ending (.inr ⟨other, ⟨_, by rw [phase]; rfl⟩,
        inv.not_isUnderWay_enter (by rw [phase]; rfl) rfl⟩))⟩
  | unlock phase =>
    refine still _ rfl (fun h _ => ?_) (isUnderWay_enter_iff (by rw [phase_setLocked, phase]; rfl))
    rwa [isBound_enter_iff (by rw [phase_setLocked, phase]; rfl)]
  | @hand i j giver taker =>
    refine still _ rfl (fun _ _ => .inr (isBound_enter rfl)) ?_
    -- giver and taker are different tasks, and neither is in a finalization
    have hne : j ≠ i := fun h => by
      rw [h, giver] at taker
      cases taker
    rw [isUnderWay_enter_iff (by rw [phase_enter, if_neg hne, taker]; rfl),
      isUnderWay_enter_iff (by rw [giver]; rfl)]

end Grown

/-! ## Runs -/

theorem Sound.follow (inv : w.Sound) (h : Relation.ReflTransGen Step w w') : w'.Sound := by
  induction h with
  | refl => exact inv
  | tail _ hstep ih => exact ih.preserve hstep

/-- What a run adds to the history, and what it leaves to be done. -/
theorem Grown.follow {start c : Container} {added : List HistoryEntry}
    (g : Grown start added c w) (inv : w.Sound) (h : Relation.ReflTransGen Step w w') :
    ∃ d more, Grown start (added ++ more) d w' := by
  induction h with
  | refl =>
    refine ⟨c, [], ?_⟩
    rw [List.append_nil]
    exact g
  | tail hsteps hstep ih =>
    obtain ⟨d, more, g'⟩ := ih
    obtain ⟨d', more', g''⟩ := g'.step (inv.follow hsteps) hstep
    refine ⟨d', more ++ more', ?_⟩
    rw [← List.append_assoc]
    exact g''

/-- No step makes a record. -/
theorem record_eq_none (h : Relation.ReflTransGen Step w w')
    (hr : w.record = none) : w'.record = none := by
  induction h with
  | refl => exact hr
  | tail _ hstep ih =>
    cases hstep with
    | aside | lock | skip | clear | call | unlock | hand => exact ih
    | change record | observe record | missing record =>
      rw [ih] at record
      cases record
    | report _ record | begin _ record | conclude _ record =>
      rw [ih] at record
      cases record

end Watch

end Mooring.Tracker
