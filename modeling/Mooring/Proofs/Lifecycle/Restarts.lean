import Mooring.Proofs.Lifecycle.Interruption
import Mooring.Proofs.Lifecycle.Schedules
import Mooring.Proofs.Store.Session

set_option autoImplicit false

/-!
# Lifetimes that follow one another

What one lifetime leaves the next takes up. A container is left waiting for another finalization
once at most, recovery leaves none finalizing, and one whose finalization was cut off gets the
terminal status that it would have got (`Reached.recovery`).
-/

namespace Mooring

variable {σ : Type} {s : Surroundings σ} {w : World σ} {id : Int} {c d : Container}
  {e : EngineEvent}

namespace Tracker

/-! ## Finalizing without an interruption -/

section Finishing

variable (hs : s.Saves) (hf : s.Finalizes) (hc : w.store.get? id = some c)
include hs hc

/-- Where changes are saved, an exit is recorded, and its record is to be finalized. -/
theorem run_handle_exit (hid : e.target? w.store = some id) (hexit : e.reportsExit = true)
    {now : Instant} (hd : c.append? (e.entry now) = some d) :
    ∃ d' w', (handle e).run.run s w = (.ok (some id), w') ∧ w'.store.get? id = some d' ∧
      d'.status = d.status ∧ d'.terminalStatus = d.terminalStatus := by
  have hopen := EngineEvent.isIgnored_of_reportsExit hexit c
  rcases run_record_of_saves hs hc e.entry with ⟨hnone, -⟩ | ⟨d', w', hd', hr, hbecomes⟩
  · -- an entry is refused at all times or at none
    rw [Container.append?_eq_none_iff, records_entry c e _ now,
      (Container.append?_eq_some_iff.1 hd).1] at hnone
    cases hnone
  have htimeless := EngineEvent.timeless_of_append? hd' hd
  have hstatus := Container.status_alike htimeless
  have hterminal : d'.terminalStatus = d.terminalStatus := by
    rw [← Container.terminalStatus_timeless, htimeless, Container.terminalStatus_timeless]
  rw [run_handle s hid hc hopen, run_bindJob, hr]
  cases e with
  | missing other => cases hexit
  | container e =>
    have hends : HistoryEntry.eventEnds e.status = true := hexit
    refine ⟨d', w', ?_, hbecomes.record, hstatus, hterminal⟩
    simp only [afterEntry, hends, Option.isSome_some, and_self, if_true]
    rfl
  | task other t =>
    obtain rfl : other = id := Option.some.inj hid
    have hexited : t.isExited = true := hexit
    obtain ⟨w'', hupdate, hplaced⟩ : ∃ w'', (Job.update other (withTask t)).run.run s w' =
        (.ok (withTask t d'), w'') ∧ w'.store.Becomes other (withTask t d') w''.store :=
      run_update_of_saves hs hbecomes.record rfl
    let told : World σ := { w'' with
      published := w''.published ++
        [LifecycleEvent.taskChanged other t.taskId t.status (s.now w''.outside)] }
    have hplace : (place other t).run.run s w' = (.ok (some other), told) := by
      unfold place
      rw [run_bindJob, hupdate]
      simp only [hexited, if_true]
      rfl
    exact ⟨withTask t d', told, hplace, hplaced.record, hstatus, hterminal⟩

include hf

/-- Where changes are saved and the finalizer succeeds, the processing of an event that ends a
container gives it its terminal status. -/
theorem run_process_of_ends (hid : e.target? w.store = some id) {status : Status}
    (h : e.Ends c status) :
    ∃ d, ((process e).run.run s w).2.store.get? id = some d ∧ d.status = status := by
  rw [run_process]
  cases h with
  | ignored hignored hopen =>
    obtain ⟨d, w', now, hrun, hbecomes, -, hstatus⟩ := run_finalize_open hs hf hc hopen
    rw [run_handle_ignored s hid hc hignored]
    simp only [hrun]
    exact ⟨d, hbecomes.record, hstatus⟩
  | @recorded d now hexit hd hopen =>
    obtain ⟨d', w', hrun, hd', hstatus', hterminal⟩ := run_handle_exit hs hc hid hexit hd
    have hopen' : d'.isFinalized = false := by
      rw [Container.isFinalized, hstatus']
      exact hopen
    obtain ⟨d'', w'', now, hrun', hbecomes, -, hstatus⟩ := run_finalize_open hs hf hd' hopen'
    rw [hrun]
    simp only [hrun']
    exact ⟨d'', hbecomes.record, hstatus.trans hterminal⟩

end Finishing

/-! ## Finalizing what waits -/

/-- Finalize a container that waits. -/
def refinalize (c : Container) : Routine (Int × Except Error (Option Status)) := do
  let result ← (finalize c.databaseId).run
  return (c.databaseId, result)

/-- Where changes are saved and the finalizer succeeds, every container that waits gets its terminal
status. -/
theorem run_mapM_refinalize (hs : s.Saves) (hf : s.Finalizes) {waiting : List Container}
    (hget : ∀ c ∈ waiting, w.store.get? c.databaseId = some c)
    (hopen : ∀ c ∈ waiting, c.isFinalized = false)
    (hdistinct : waiting.Pairwise fun c d => c.databaseId ≠ d.databaseId) :
    (∀ id, (∀ c ∈ waiting, c.databaseId ≠ id) →
      ((waiting.mapM refinalize).run s w).2.store.get? id = w.store.get? id) ∧
    ∀ c ∈ waiting, ∃ d, ((waiting.mapM refinalize).run s w).2.store.get? c.databaseId = some d ∧
      d.status = c.terminalStatus := by
  induction waiting generalizing w with
  | nil => exact ⟨fun _ _ => rfl, List.forall_mem_nil _⟩
  | cons c rest ih =>
    obtain ⟨hc, hrest⟩ := List.forall_mem_cons.1 hget
    obtain ⟨hcopen, hrestopen⟩ := List.forall_mem_cons.1 hopen
    obtain ⟨hne, hdistinct⟩ := List.pairwise_cons.1 hdistinct
    obtain ⟨d, w', now, hrun, hbecomes, -, hstatus⟩ := run_finalize_open hs hf hc hcopen
    have hworld : ((c :: rest).mapM refinalize).run s w =
        (((c.databaseId, .ok (some c.terminalStatus)) :: ((rest.mapM refinalize).run s w').1),
          ((rest.mapM refinalize).run s w').2) := by
      rw [List.mapM_cons]
      show (Routine.bind (Routine.bind (finalize c.databaseId).run _) _).run s w = _
      rw [Routine.run_bind, Routine.run_bind, hrun]
      show (Routine.bind (rest.mapM refinalize) _).run s w' = _
      rw [Routine.run_bind]
      rfl
    -- the others are still as they were, since no two of those that wait share an identifier
    have hlater : ∀ d ∈ rest, w'.store.get? d.databaseId = some d :=
      fun d hd => (hbecomes.others _ (hne d hd).symm).trans (hrest d hd)
    obtain ⟨hothers, hfinalized⟩ := ih hlater hrestopen hdistinct
    rw [hworld]
    refine ⟨fun id hid => ?_, List.forall_mem_cons.2 ⟨⟨d, ?_, hstatus⟩, hfinalized⟩⟩
    · obtain ⟨hfirst, hid⟩ := List.forall_mem_cons.1 hid
      exact (hothers id hid).trans (hbecomes.others id hfirst.symm)
    · exact (hothers _ fun d hd => (hne d hd).symm).trans hbecomes.record

theorem run_refinalizeWaiting (s : Surroundings σ) (w : World σ) :
    refinalizeWaiting.run s w = ((w.store.withStatus .waiting).mapM refinalize).run s w :=
  rfl

end Tracker

/-- A container that was interrupted once gets the terminal status of its record. -/
theorem run_resume (hs : s.Saves) (hf : s.Finalizes) (hordered : w.store.Ordered)
    (hordered' : (Recovery.run.run s w).2.store.Ordered) (hc : w.store.get? id = some c)
    (hstatus : c.status = .finalizing) (hfirst : c.wasRecovered = false) :
    ∃ d, (resume.run s w).2.store.get? id = some d ∧ d.status = c.terminalStatus := by
  obtain ⟨herrors, hrecovers⟩ := Recovery.run_recovers hordered s
  have horphan : c ∈ Recovery.orphansOf w.store :=
    List.mem_filter.2 ⟨Store.mem_of_get? hc, decide_eq_true hstatus⟩
  obtain ⟨d, hd, hwaiting, hterminal⟩ := (hrecovers (herrors hs)).status horphan
  -- it was not given up before, so that it waits after recovery
  have hwaits : d ∈ (Recovery.run.run s w).2.store.withStatus .waiting := by
    refine List.mem_filter.2 ⟨Store.mem_of_get? hd, decide_eq_true (hwaiting.trans ?_)⟩
    unfold Recovery.statusFor
    rw [hfirst]
    rfl
  have hget : ∀ c ∈ (Recovery.run.run s w).2.store.withStatus .waiting,
      (Recovery.run.run s w).2.store.get? c.databaseId = some c :=
    fun c hc => hordered'.get?_of_mem (List.mem_of_mem_filter hc)
  have hopen : ∀ c ∈ (Recovery.run.run s w).2.store.withStatus .waiting,
      c.isFinalized = false := by
    intro c hc
    rw [Container.isFinalized, of_decide_eq_true (List.mem_filter.1 hc).2]
    rfl
  obtain ⟨-, hfinalized⟩ := Tracker.run_mapM_refinalize hs hf hget hopen
    (List.Pairwise.filter _ (hordered'.imp fun {c d} hlt => by omega))
  obtain ⟨d', hd', hstatus'⟩ := hfinalized d hwaits
  have hid : d.databaseId = id :=
    (Store.databaseId_of_get? hd).trans (Store.databaseId_of_get? hc)
  have hrun : resume.run s w = Tracker.refinalizeWaiting.run s (Recovery.run.run s w).2 :=
    Routine.run_bind s Recovery.run _ w
  rw [hrun, Tracker.run_refinalizeWaiting, ← hid]
  exact ⟨d', hd', hstatus'.trans hterminal⟩

/-! ## All lifetimes -/

/-- The processing of an event that may end a container is cut off after some actions. By then
something is recorded of it, and the container has not come to its end. -/
structure Tracker.CutsOff (s : Surroundings σ) (n : Nat) (e : EngineEvent) (id : Int)
    (w : World σ) (c d : Container) : Prop where
  target : e.target? w.store = some id
  before : w.store.get? id = some c
  ends : e.reportsExit = true ∨ e.isIgnored c = true
  after : ((process e).run.cut s n w).store.get? id = some d
  recorded : c.history.length < d.history.length
  unfinished : d.isFinalized = false

/-- What is cut off is the first finalization, to the status that the event leads to. -/
theorem Tracker.CutsOff.endsIn {n : Nat} (h : CutsOff s n e id w c d)
    (hfirst : c.wasRecovered = false) :
    d.status = .finalizing ∧ e.Ends c d.terminalStatus ∧ d.wasRecovered = false := by
  obtain ⟨d', hd', hcut⟩ := (throughout_process s h.target h.before hfirst h.ends).cut n
  obtain rfl : d = d' := Option.some.inj (h.after.symm.trans hd')
  rcases hcut with rfl | hended | hends
  · exact absurd h.recorded (Nat.lt_irrefl _)
  · rw [h.unfinished] at hended
    cases hended
  · exact hends

section Lifetimes

variable [FileTree.Listing] {dir : String} {view : σ → FileTree} {first : FileTree}

/-- In any number of lifetimes over a directory that at first holds no container left waiting, each
cut off anywhere: no container is left waiting twice; recovery without errors leaves no container
finalizing, and another one right after it does nothing; and a container whose finalization was cut
off is given by the next lifetime the terminal status that it would have got. For the last, a
record with its identifier has to stand in the file of that name at first (`Store.IsFiled`), where
saves put it. -/
theorem Reached.recovery (hnames : ∀ name ∈ first.entries dir, Files.IsName name)
    (hfirst : ∀ c ∈ Store.recordsIn dir first, c.wasRecovered = false)
    (h : Reached dir view first w) :
    ((∀ c ∈ w.store.records, c.history.countP HistoryEntry.marksWaiting ≤ 1) ∧
      ∀ c ∈ Store.recordsIn dir (view w.outside),
        c.history.countP HistoryEntry.marksWaiting ≤ 1) ∧
    (∀ s : Surroundings σ, s.KeepsIn dir view →
      (s.Saves → (Recovery.run.run s w).1.errors = []) ∧
      ((Recovery.run.run s w).1.errors = [] →
        (∀ c ∈ (Recovery.run.run s w).2.store.records, c.status ≠ .finalizing) ∧
        ∀ s' : Surroundings σ,
          Recovery.run.run s' (Recovery.run.run s w).2 = ({}, (Recovery.run.run s w).2))) ∧
    ∀ (s : Surroundings σ) (n : Nat) (e : EngineEvent) (id : Int) (c d : Container),
      s.KeepsIn dir view → Store.IsFiled dir first id → c.wasRecovered = false →
      Tracker.CutsOff s n e id w c d →
      let cut := (Tracker.process e).run.cut s n w
      ∃ store, Store.openIn dir (view cut.outside) = (.ok store, view cut.outside) ∧
        ∀ (start : World σ) (s₁ s₂ : Surroundings σ), start.store = store →
          view start.outside = view cut.outside → s₁.KeepsIn dir view →
          s₁.Saves → s₁.Finalizes → s₂.Saves → s₂.Finalizes →
          ∃ status, status.isTerminal = true ∧
            Tracker.statusAfter s₁ start id resume = some status ∧
            Tracker.statusAfter s₂ w id (Tracker.process e).run = some status := by
  have honce := h.isOnceMarked hnames hfirst
  refine ⟨⟨fun c hc => (honce.held c hc).once, fun c hc => (honce.recordsIn c hc).once⟩, ?_, ?_⟩
  · intro s hs
    obtain ⟨herrors, hrecovers⟩ := Recovery.run_recovers honce.ordered s
    refine ⟨herrors, fun hnone => ?_⟩
    have hsettled : ∀ c ∈ (Recovery.run.run s w).2.store.records, c.status ≠ .finalizing :=
      fun c hc => (hrecovers hnone).settled (Recovery.throughout_run hs honce).last.ordered hc
    exact ⟨hsettled, fun s' => Recovery.run_of_settled s' hsettled⟩
  · intro s n e id c d hs hfiled hunmarked hcut cut
    obtain ⟨hstatus, hends, hunmarked'⟩ := hcut.endsIn hunmarked
    have honce' : cut.IsOnceMarked dir view (Store.IsFiled dir first) :=
      (honce.throughout hs (Tracker.tracking_process fun _ _ _ => trivial)).cut n
    -- what the next lifetime opens holds the record as it was when the last one ended
    obtain ⟨store, hopen, hfiling, hkept⟩ := Store.Filing.openIn honce'
    refine ⟨store, hopen, ?_⟩
    rintro start s₁ s₂ rfl hview hkeeps₁ hs₁ hf₁ hs₂ hf₂
    have hstart : start.IsOnceMarked dir view (Store.IsFiled dir first) := by
      unfold World.IsOnceMarked
      rw [hview]
      exact hfiling
    have hd : start.store.get? id = some d := hkept id d hfiled hcut.after
    obtain ⟨x, hx, hxstatus⟩ := run_resume hs₁ hf₁ hstart.ordered
      (Recovery.throughout_run hkeeps₁ hstart).last.ordered hd hstatus hunmarked'
    obtain ⟨y, hy, hystatus⟩ := Tracker.run_process_of_ends hs₂ hf₂ hcut.before hcut.target hends
    refine ⟨d.terminalStatus, Tracker.terminalStatus_isTerminal d, ?_, ?_⟩
    · unfold Tracker.statusAfter
      rw [hx, ← hxstatus]
      rfl
    · unfold Tracker.statusAfter
      rw [hy, ← hystatus]
      rfl

end Lifetimes

/-! ## A service that is interrupted -/

open Tracker

/-- Surroundings that save every change in a directory with files alone, and whose finalizer writes
nothing. -/
def Surroundings.plain (dir : String) :
    Surroundings { files : FileTree // Store.HoldsFiles dir files } where
  now _ := ⟨0, 0⟩
  shelf := Store.plainShelf dir
  engine _ outside := (.error .notConfigured, outside)
  finalizer _ outside := (.ok [], outside)
  loadServer _ := .ok none
  saveCheckTime _ outside := (.ok (), outside)
  issueToken _ outside := (.ok "", outside)
  makeBuildDirectory outside := (.ok "", outside)

theorem isValid_zero : (⟨0, 0⟩ : Instant).IsValid :=
  ⟨by decide, .inl (by decide)⟩

theorem plain_keepsIn (dir : String) : (Surroundings.plain dir).KeepsIn dir Subtype.val :=
  ⟨Store.plainShelf_keepsIn dir, fun _ => isValid_zero, fun _ _ => ⟨id, fun _ => rfl⟩⟩

theorem plain_finalizes (dir : String) : (Surroundings.plain dir).Finalizes :=
  fun _ _ => ⟨[], rfl⟩

theorem service_isOnceMarked : service.IsOnceMarked where
  representable := ⟨by decide, by decide, nofun, isValid_zero, List.forall_mem_nil _⟩
  unmemoized := rfl
  once := by decide

/-- The directory of the service. -/
def serviceFiles : FileTree :=
  (Store.saveIn "records" service Store.Session.bareFiles).2

theorem holdsFiles_bareFiles : Store.HoldsFiles "records" Store.Session.bareFiles where
  stands := FileTree.stands_of_makeDirs? (t := Store.Session.bareFiles) rfl
  plain := by
    intro name hname
    have hnames : Store.Session.bareFiles.entries "records" = [] := by decide +kernel
    intro hdirectory
    have hmem : name ∈ Store.Session.bareFiles.entries "records" := by
      rw [FileTree.mem_entries_iff_below? hname, hdirectory]
      rfl
    rw [hnames] at hmem
    cases hmem

theorem holdsFiles_serviceFiles : Store.HoldsFiles "records" serviceFiles := by
  obtain ⟨files, hsave, -, hfiles⟩ := holdsFiles_bareFiles.saveIn service
  unfold serviceFiles
  rw [hsave]
  exact hfiles

/-- Nothing but the record of the service is read from its directory. -/
theorem filing_serviceFiles :
    Store.Filing "records" (fun _ => True) (· = service) (Store.empty.put service) serviceFiles := by
  obtain ⟨files, hsave, hsaved, -⟩ := holdsFiles_bareFiles.saveIn service
  have hbare : Store.Filing "records" (fun _ => True) (· = service) Store.empty
      Store.Session.bareFiles :=
    Store.filing_empty holdsFiles_bareFiles.stands (by decide +kernel)
  unfold serviceFiles
  rw [hsave]
  exact hbare.saving hsaved rfl rfl service_isOnceMarked.ofText?

/-- The service is complete. -/
def serviceDone : EngineEvent :=
  .task 1 ⟨"s1", "t1", "n1", "complete", some ⟨2, 0⟩, none, none, some 0⟩

/-- The record of the service that is complete, before it is finalized. -/
def serviceStopped : Container :=
  (service.append? (serviceDone.entry ⟨0, 0⟩)).getD service

/-- The processing of a task report first records it. -/
theorem cut_process_task (s : Surroundings σ) (w : World σ) (id : Int) (t : ServiceTask) :
    (process (.task id t)).run.cut s 1 w =
      (s.perform w (.append id (EngineEvent.task id t).entry)).2 :=
  rfl

/-- The process ends as soon as the entry of the task is saved. -/
theorem cutsOff_service {w : World { files // Store.HoldsFiles "records" files }}
    (hget : w.store.get? 1 = some service) :
    CutsOff (.plain "records") 1 serviceDone 1 w service serviceStopped := by
  have happend : service.append? (serviceDone.entry ⟨0, 0⟩) = some serviceStopped := by
    decide +kernel
  have hexit : serviceDone.reportsExit = true := by decide +kernel
  have hlonger : service.history.length < serviceStopped.history.length := by decide +kernel
  have hopen : serviceStopped.isFinalized = false := by decide +kernel
  refine ⟨rfl, hget, .inl hexit, ?_, hlonger, hopen⟩
  have hstore : ((process serviceDone).run.cut (.plain "records") 1 w).store =
      (w.store.append (Store.plainShelf "records") 1 (serviceDone.entry ⟨0, 0⟩) w.outside).2.1 :=
    congrArg World.store (cut_process_task ..)
  rw [hstore]
  rcases Store.append_of_saves w.outside (Store.plainShelf_saves "records") hget
      (serviceDone.entry ⟨0, 0⟩) with ⟨hnone, -⟩ | ⟨d, hd, hr⟩
  · rw [happend] at hnone
    cases hnone
  · obtain rfl : serviceStopped = d := Option.some.inj (happend.symm.trans hd)
    rw [hr]
    exact Store.get?_put_of_append? hget happend

theorem Reached.recovery_service :
    ∃ w : World { files // Store.HoldsFiles "records" files },
      Reached "records" Subtype.val serviceFiles w ∧
      CutsOff (.plain "records") 1 serviceDone 1 w service serviceStopped ∧
      let cut := (process serviceDone).run.cut (.plain "records") 1 w
      ∃ store status, Store.openIn "records" cut.outside.1 = (.ok store, cut.outside.1) ∧
        statusAfter (.plain "records") { store, outside := cut.outside } 1 resume = some status ∧
        statusAfter (.plain "records") w 1 (process serviceDone).run = some status := by
  have hfiling := filing_serviceFiles
  obtain ⟨t, hopen, -, hkept⟩ := hfiling.openIn
  let w : World { files // Store.HoldsFiles "records" files } :=
    { store := t, outside := ⟨serviceFiles, holdsFiles_serviceFiles⟩ }
  have hkeeps := plain_keepsIn "records"
  have hreached : Reached "records" Subtype.val serviceFiles w :=
    .begin ⟨w, .plain "records", [], 0, hopen, hkeeps, rfl⟩
  have hnames : ∀ name ∈ serviceFiles.entries "records", Files.IsName name :=
    fun name hname => (hfiling.legible name hname).1
  have hfirst : ∀ c ∈ Store.recordsIn "records" serviceFiles, c.wasRecovered = false := by
    intro c hc
    rw [hfiling.recordsIn c hc]
    rfl
  have hcut : CutsOff (.plain "records") 1 serviceDone 1 w service serviceStopped :=
    cutsOff_service (hkept 1 service trivial (Store.get?_put_of_eq rfl))
  obtain ⟨-, -, hresumes⟩ := Reached.recovery hnames hfirst hreached
  obtain ⟨store, hopen', hstatus⟩ :=
    hresumes _ 1 serviceDone 1 service _ hkeeps (hfiling.filed 1 trivial) rfl hcut
  obtain ⟨status, -, hresumed, hprocessed⟩ := hstatus
    { store, outside := ((process serviceDone).run.cut (.plain "records") 1 w).outside }
    (.plain "records") (.plain "records") rfl rfl hkeeps (Store.plainShelf_saves _)
    (plain_finalizes _) (Store.plainShelf_saves _) (plain_finalizes _)
  exact ⟨w, hreached, hcut, store, status, hopen', hresumed, hprocessed⟩

end Mooring
