import Mooring.Proofs.Lifecycle.Refinement

set_option autoImplicit false

/-!
# Finalizations in a run

What holds in every run of a tracker over a store whose changes are saved, whatever its calls do
beside each other: a record is finalized at most once, and a record whose exit was recorded comes to
its end.
-/

namespace Mooring.Tracker.Pool

variable {σ : Type} {s : Surroundings σ} {p : Pool σ} {store : Store} {outside : σ}
  {moves : List (Move σ)}

/-- A run over a store is shown by a watch that has run from the record in the store. -/
theorem exists_shows (hs : s.Saves) (hrun : (fresh store outside).follow? s moves = some p)
    (id : Int) : ∃ w, Shows p id w ∧ (store.get? id = none → w.record = none) ∧
      ∀ c, store.get? id = some c → ∃ d added, Watch.Grown c added d w := by
  have hstart := Shows.fresh store outside id
  obtain ⟨w, hsteps, hw⟩ := hstart.follow hs hrun
  refine ⟨w, hw, fun hnone => Watch.record_eq_none hsteps hnone, fun c hc => ?_⟩
  obtain ⟨d, added, g⟩ := (Watch.Grown.initial hc).follow hstart.sound hsteps
  exact ⟨d, added, g⟩

/-- In every run the finalizer is called at most once for a record. When all tasks are over, no
record has come or gone, histories have only grown, and where an exit was added to a history the
record is at its end. -/
theorem finalizes_once (hs : s.Saves) (hrun : (fresh store outside).follow? s moves = some p) :
    (∀ id, p.calls id ≤ 1) ∧
      (p.isQuiet = true → ∀ id, (store.get? id = none ∧ p.record? id = none) ∨
        ∃ c d added, store.get? id = some c ∧ p.record? id = some d ∧
          d.history = c.history ++ added ∧
          ((∃ e ∈ added, e.signalsExit = true) → d.isFinalized = true)) := by
  constructor
  · intro id
    obtain ⟨w, hw, -⟩ := exists_shows hs hrun id
    rw [← hw.calls]
    rcases hw.sound.spent with hzero | ⟨hone, -⟩
    · omega
    · omega
  · intro hquiet id
    obtain ⟨w, hw, hnone, hsome⟩ := exists_shows hs hrun id
    have hrecord : p.record? id = w.record := hw.world.record.symm
    cases hc : store.get? id with
    | none => exact .inl ⟨rfl, hrecord.trans (hnone hc)⟩
    | some c =>
      obtain ⟨d, added, g⟩ := hsome c hc
      refine .inr ⟨c, d, added, rfl, hrecord.trans g.record, g.history, fun hexit => ?_⟩
      rcases g.followed hexit with hend | ⟨i, hi⟩
      · exact hend.isFinalized
      · -- nobody is bound to do anything when all tasks are over
        rw [hw.phase_of_isQuiet hquiet i] at hi
        cases hi

/-! ## A race -/

/-- A store with the record of one plain container. -/
def racedStore : Store :=
  { records := [
      { databaseId := 1, commandId := 1, containerId := some "c1", userId := "u", image := "i",
        commandLine := "l", statusTime := ⟨0, 0⟩ }],
    index := .ofPairs [("c1", 1)],
    nextId := 2 }

/-- The container stops while somebody else asks for its finalization: both finalizations run. -/
def race : List (Move Unit) :=
  [.call (.handle (.container ⟨"die", "c1", 0, 0, .empty⟩)), .call (.finalize 1)] ++
    List.replicate 4 (.advance 0) ++ List.replicate 8 (.advance 1) ++ List.replicate 3 (.advance 2)

/-- What the race comes to. -/
def raced : Pool Unit :=
  ((fresh racedStore ()).follow? .still race).get (by decide +kernel)

theorem race_finalizes_once :
    (fresh racedStore ()).follow? .still race = some raced ∧ raced.isQuiet = true ∧
      (∀ id, raced.calls id ≤ 1) ∧
      ∀ id, (racedStore.get? id = none ∧ raced.record? id = none) ∨
        ∃ c d added, racedStore.get? id = some c ∧ raced.record? id = some d ∧
          d.history = c.history ++ added ∧
          ((∃ e ∈ added, e.signalsExit = true) → d.isFinalized = true) := by
  have hrun : (fresh racedStore ()).follow? .still race = some raced := (Option.some_get _).symm
  have hquiet : raced.isQuiet = true := by decide +kernel
  obtain ⟨hcalls, hends⟩ := finalizes_once Surroundings.still_saves hrun
  exact ⟨hrun, hquiet, hcalls, hends hquiet⟩

end Mooring.Tracker.Pool
