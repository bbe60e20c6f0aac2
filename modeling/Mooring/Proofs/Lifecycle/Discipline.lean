import Mooring.Proofs.Container.Ending
import Mooring.Proofs.Lifecycle.Interleaving

set_option autoImplicit false

/-!
# How the tracker goes about one record

Seen from the record of one identifier, every call of the tracker goes through phases: it is free,
it owes a finalization, it holds the lock of the record and has got so far. `Allowed` lists the
actions that touch the record, each with the phase it is taken in and the phase it leads to, and
`Keeps` says that a routine takes no others, whatever it is answered. That every call keeps to the
rules is shown once for each of them (`keeps_task`); what the rules are good for is the subject of
`Mooring.Proofs.Lifecycle.Watch`.
-/

namespace Mooring

/-- Whether an entry records that a service is gone. -/
def HistoryEntry.isMissingReport (e : HistoryEntry) : Bool :=
  e.isEnding && e.message = some Tracker.missingMessage

theorem HistoryEntry.isEnding_of_isMissingReport {e : HistoryEntry}
    (h : e.isMissingReport = true) : e.isEnding = true := by
  simp only [isMissingReport, Bool.and_eq_true] at h
  exact h.1

namespace Tracker

/-- How far a call is with the finalization of one record. -/
inductive Phase where
  /-- nothing is owed or held -/
  | free
  /-- an exit was recorded, and the finalization is still to be done -/
  | owing
  /-- the lock is held, and the record was not looked at -/
  | entered
  /-- the lock is held, and the record was not at its end when it was looked at -/
  | cleared
  /-- the entry that begins the finalization is recorded -/
  | opened
  /-- the finalizer was called, and the entry that ends the finalization is missing -/
  | called
  /-- the lock is held, and nothing more is to be done -/
  | left
  deriving DecidableEq

namespace Phase

/-- Whether the lock of the record is held. -/
def holds : Phase → Bool
  | entered | cleared | opened | called | left => true
  | free | owing => false

/-- Whether there must be a record. -/
def needsRecord : Phase → Bool
  | owing | cleared | opened | called => true
  | free | entered | left => false

/-- Whether the finalization has begun and not ended. -/
def isUnderWay : Phase → Bool
  | opened | called => true
  | free | owing | entered | cleared | left => false

/-- Whether the call will see to it that the record comes to its end. -/
def isBound : Phase → Bool
  | owing | entered | cleared | opened | called => true
  | free | left => false

variable {phase : Phase}

theorem holds_of_isUnderWay (h : phase.isUnderWay = true) : phase.holds = true := by
  cases phase <;> first | rfl | cases h

/-- Whoever is about to end the finalization of a record holds its lock. -/
theorem holds_of_cleared_or (h : phase = .cleared ∨ phase.isUnderWay = true) :
    phase.holds = true := by
  rcases h with rfl | h
  · rfl
  · exact holds_of_isUnderWay h

theorem isBound_of_cleared_or (h : phase = .cleared ∨ phase.isUnderWay = true) :
    phase.isBound = true := by
  rcases h with rfl | h
  · rfl
  · cases phase <;> first | rfl | cases h

end Phase

/-! ## The rules -/

/-- Whether an action has to do with the record of an identifier: changes it, locks it or finalizes
it. -/
def touches (id : Int) : Action → Bool
  | .append other _ | .update other _ | .lock other | .unlock other => other = id
  | .finalizer c => c.databaseId = id
  | _ => false

/-- Whether an action makes no records, and changes them only in what their status and history do
not depend on. -/
def IsTame : Action → Prop
  | .insert _ => False
  | .update _ change => ∀ c, (change c).databaseId = c.databaseId ∧
      (change c).status = c.status ∧ (change c).history = c.history
  | _ => True

/-- What can be expected of an answer where every change is saved. -/
def Expected (id : Int) (phase : Phase) : (action : Action) → action.Answer → Prop
  | .get other, r => ∀ c, r = some c → c.databaseId = other
  | .append other entry, r => other = id → phase.needsRecord = true →
      (∀ now, (entry now).externalTime = none) → ∃ change, r = .ok (some change)
  | .update other _, r => other = id → phase.needsRecord = true →
      ∃ c, r = .ok c ∧ c.databaseId = other
  | _, _ => True

/-- The actions that may be taken in a phase, with their answers and the phases that follow. -/
inductive Allowed (id : Int) : Phase → (action : Action) → action.Answer → Phase → Prop
  | aside {phase : Phase} {action : Action} {r : action.Answer} (h : touches id action = false) :
      Allowed id phase action r phase
  | change {phase : Phase} {f : Container → Container} {r : Except StoreError Container} :
      Allowed id phase (.update id f) r phase
  | observe {entry : Instant → HistoryEntry} {r : Except StoreError (Option StatusChange)}
      (origin : ∀ now, (entry now).origin ≠ .system)
      (exit : (∀ now, (entry now).signalsExit = false) ∨ ∀ change, r ≠ .ok (some change)) :
      Allowed id .free (.append id entry) r .free
  | report {entry : Instant → HistoryEntry} {change : StatusChange}
      (origin : ∀ now, (entry now).origin ≠ .system) :
      Allowed id .free (.append id entry) (.ok (some change)) .owing
  | missing {entry : Instant → HistoryEntry} {r : Except StoreError (Option StatusChange)}
      (missing : ∀ now, (entry now).isMissingReport = true) :
      Allowed id .free (.append id entry) r .free
  | lock {phase : Phase} {r : Unit} (h : phase = .free ∨ phase = .owing) :
      Allowed id phase (.lock id) r .entered
  | skip {r : Option Container} (h : ∀ c, r = some c → c.isFinalized = true) :
      Allowed id .entered (.get id) r .left
  | clear {c : Container} (h : c.isFinalized = false) :
      Allowed id .entered (.get id) (some c) .cleared
  | begin {entry : Instant → HistoryEntry} {change : StatusChange}
      (opening : ∀ now, (entry now).isOpening = true) :
      Allowed id .cleared (.append id entry) (.ok (some change)) .opened
  | call {c : Container} {r : Except (List String) (List String)} (h : c.databaseId = id) :
      Allowed id .opened (.finalizer c) r .called
  | conclude {entry : Instant → HistoryEntry} {change : StatusChange}
      (ending : ∀ now, (entry now).isEnding = true)
      (other : ∀ now, (entry now).isMissingReport = false) :
      Allowed id .called (.append id entry) (.ok (some change)) .left
  | unlock {r : Unit} : Allowed id .left (.unlock id) r .free

/-- Whether a routine keeps to the rules from a phase on, and ends with a phase and a value that
satisfy `Q`. -/
def Keeps (id : Int) {α : Type} (Q : Phase → α → Prop) : Routine α → Phase → Prop
  | .done a, phase => Q phase a
  | .step action next, phase => IsTame action ∧ ∀ r, Expected id phase action r →
      ∃ phase', Allowed id phase action r phase' ∧ Keeps id Q (next r) phase'

section Rules

variable {id : Int} {α β : Type} {phase : Phase}

theorem Keeps.mono {Q R : Phase → α → Prop} {t : Routine α} (h : Keeps id Q t phase)
    (hQ : ∀ phase a, Q phase a → R phase a) : Keeps id R t phase := by
  induction t generalizing phase with
  | done a => exact hQ phase a h
  | step action next ih =>
    obtain ⟨htame, hkeeps⟩ := h
    constructor
    · exact htame
    · intro r hr
      obtain ⟨phase', ha, hk⟩ := hkeeps r hr
      exact ⟨phase', ha, ih r hk⟩

/-- A routine and one that depends on its value keep to the rules one after the other. -/
theorem Keeps.bind {Q : Phase → α → Prop} {R : Phase → β → Prop} {t : Routine α}
    {f : α → Routine β} (h : Keeps id Q t phase)
    (hf : ∀ phase a, Q phase a → Keeps id R (f a) phase) : Keeps id R (t.bind f) phase := by
  induction t generalizing phase with
  | done a => exact hf phase a h
  | step action next ih =>
    obtain ⟨htame, hkeeps⟩ := h
    constructor
    · exact htame
    · intro r hr
      obtain ⟨phase', ha, hk⟩ := hkeeps r hr
      exact ⟨phase', ha, ih r hk⟩

/-- The same for jobs: an error ends the job. -/
theorem Keeps.bindJob {Q : Phase → Except Error α → Prop} {R : Phase → Except Error β → Prop}
    {j : Job α} {f : α → Job β} (h : Keeps id Q j.run phase)
    (hok : ∀ phase a, Q phase (.ok a) → Keeps id R (f a).run phase)
    (herr : ∀ phase e, Q phase (.error e) → R phase (.error e)) :
    Keeps id R (j >>= f).run phase := by
  apply Keeps.bind h
  intro phase r hr
  cases r with
  | ok a => exact hok phase a hr
  | error e => exact herr phase e hr

/-- A step of which nothing is expected. -/
theorem Keeps.aside {Q : Phase → α → Prop} {action : Action} {next : action.Answer → Routine α}
    (htame : IsTame action) (haside : touches id action = false)
    (h : ∀ r, Expected id phase action r → Keeps id Q (next r) phase) :
    Keeps id Q (.step action next) phase :=
  ⟨htame, fun r hr => ⟨phase, .aside haside, h r hr⟩⟩

/-- A job that asks for one action that has nothing to do with the record. -/
theorem Keeps.ask {action : Action} (htame : IsTame action) (haside : touches id action = false) :
    Keeps id (fun p r => p = phase ∧ ∃ a, r = .ok a ∧ Expected id phase action a)
      (Job.ask action).run phase :=
  Keeps.aside htame haside fun r hr => ⟨rfl, r, rfl, hr⟩

/-- A call to the engine has nothing to do with the record. -/
theorem Keeps.engine (call : EngineCall) :
    Keeps id (fun p (_ : Except Error call.Answer) => p = phase) (Job.engine call).run phase :=
  Keeps.aside trivial rfl fun _ _ => rfl

/-- Changing a record keeps the phase. -/
theorem Keeps.update {other : Int} {f : Container → Container} (htame : IsTame (.update other f)) :
    Keeps id (fun p r => p = phase ∧
        (other = id → phase.needsRecord = true → ∃ c, r = .ok c ∧ c.databaseId = other))
      (Job.update other f).run phase := by
  refine ⟨htame, fun r hr => ?_⟩
  have hr' : other = id → phase.needsRecord = true →
      ∃ c, r.mapError Error.store = .ok c ∧ c.databaseId = other := by
    intro ho hn
    obtain ⟨c, rfl, hc⟩ := hr ho hn
    exact ⟨c, rfl, hc⟩
  by_cases ho : other = id
  · subst ho
    exact ⟨phase, .change, rfl, hr'⟩
  · exact ⟨phase, .aside (by simp [touches, ho]), rfl, hr'⟩

/-- Recording an entry takes one action that counts, the appending of the entry. -/
theorem Keeps.record {other : Int} {entry : Instant → HistoryEntry}
    {Q : Phase → Except StoreError (Option StatusChange) → Prop}
    (h : ∀ r, Expected id phase (.append other entry) r →
      ∃ phase', Allowed id phase (.append other entry) r phase' ∧ Q phase' r) :
    Keeps id (fun p r => ∃ r', Q p r' ∧ r = r'.mapError .store) (record other entry).run phase := by
  have happend : Keeps id (fun p r => ∃ r', Q p r' ∧ r = r'.mapError .store)
      (Job.append other entry).run phase := by
    refine ⟨trivial, fun r hr => ?_⟩
    obtain ⟨phase', ha, hQ⟩ := h r hr
    exact ⟨phase', ha, r, hQ, rfl⟩
  refine Keeps.bindJob happend (fun p change hc => ?_) (fun p e he => he)
  cases change with
  | none => exact hc
  | some c =>
    -- a change of status is published, which nobody waits for
    show Keeps id _ (if c.moved then _ else _ : Job _).run p
    split
    · exact Keeps.aside trivial rfl fun _ _ => hc
    · exact hc

end Rules

/-! ## The entries of the tracker -/

section Entries

variable {status : Status} {message : Option String} (now : Instant)

theorem isEnding_systemEntry (h : status.isTerminal = true) :
    (systemEntry status message now).isEnding = true := by
  simp [HistoryEntry.isEnding, systemEntry, HistoryEntry.ofSystem, HistoryEntry.status?, h]

theorem isOpening_systemEntry : (systemEntry .finalizing message now).isOpening = true := by
  simp [HistoryEntry.isOpening, systemEntry, HistoryEntry.ofSystem, HistoryEntry.status?]

theorem isMissingReport_systemEntry :
    (systemEntry .failed missingMessage now).isMissingReport = true := by
  have hend : (systemEntry .failed missingMessage now).isEnding = true :=
    isEnding_systemEntry now rfl
  simp [HistoryEntry.isMissingReport, hend]
  rfl

theorem isMissingReport_systemEntry_of_ne (h : message ≠ some missingMessage) :
    (systemEntry status message now).isMissingReport = false := by
  have hm : (systemEntry status message now).message = message := rfl
  simp [HistoryEntry.isMissingReport, hm, h]

theorem externalTime_systemEntry : (systemEntry status message now).externalTime = none :=
  rfl

end Entries

theorem terminalStatus_isTerminal (c : Container) : c.terminalStatus.isTerminal = true := by
  unfold Container.terminalStatus
  split
  · rfl
  · split <;> rfl

theorem failureMessage_ne (causes : String) :
    some s!"Finalization failed: {causes}" ≠ some missingMessage := by
  intro h
  have := congrArg String.toList (Option.some.inj h)
  simp [missingMessage, toString] at this

/-- No message about an exit code reads like the report that a service is gone. -/
theorem terminalMessage_ne (status : Status) (code : Option String) :
    terminalMessage status code ≠ some missingMessage := by
  unfold terminalMessage
  cases code with
  | none => exact fun h => nomatch h
  | some code =>
    split
    · next text _ =>
      intro h
      split at h
      · have := congrArg String.toList (Option.some.inj h)
        simp [missingMessage, toString] at this
      · cases h
    · exact fun h => nomatch h

/-! ## Recording entries -/

section Recording

variable {id : Int} {phase : Phase} {entry : Instant → HistoryEntry}

theorem keeps_record_of_ne {other : Int} (h : other ≠ id) :
    Keeps id (fun p _ => p = phase) (record other entry).run phase := by
  refine Keeps.mono (Keeps.record fun r _ => ?_) fun p r ⟨r', hp, _⟩ => hp
  exact ⟨phase, .aside (by simp [touches, h]), rfl⟩

/-- What was observed is recorded, and if it was an exit the finalization is owed. -/
theorem keeps_record_observed {other : Int} (ho : ∀ now, (entry now).origin ≠ .system) :
    Keeps id (fun p r => p = .free ∨ p = .owing ∧ other = id ∧ ∃ change, r = .ok (some change))
      (record other entry).run .free := by
  by_cases h : other = id
  · subst h
    refine Keeps.mono (Keeps.record (Q := fun p r => p = .free ∨
      p = .owing ∧ ∃ change, r = .ok (some change)) fun r _ => ?_) ?_
    · by_cases hr : ∃ change, r = .ok (some change)
      · obtain ⟨change, rfl⟩ := hr
        exact ⟨.owing, .report ho, .inr ⟨rfl, change, rfl⟩⟩
      · exact ⟨.free, .observe ho (.inr fun change hc => hr ⟨change, hc⟩), .inl rfl⟩
    · rintro p r ⟨r', hp | ⟨hp, change, rfl⟩, rfl⟩
      · exact .inl hp
      · exact .inr ⟨hp, rfl, change, rfl⟩
  · exact Keeps.mono (keeps_record_of_ne h) fun p r hp => .inl hp

/-- What was observed is recorded, and owes nothing if it was no exit. -/
theorem keeps_record_silent {other : Int} (ho : ∀ now, (entry now).origin ≠ .system)
    (hexit : ∀ now, (entry now).signalsExit = false) :
    Keeps id (fun p _ => p = .free) (record other entry).run .free := by
  by_cases h : other = id
  · subst h
    refine Keeps.mono (Keeps.record fun r _ => ?_) fun p r ⟨r', hp, _⟩ => hp
    exact ⟨.free, .observe ho (.inl hexit), rfl⟩
  · exact keeps_record_of_ne h

theorem keeps_record_missing (other : Int) :
    Keeps id (fun p _ => p = .free)
      (record other (systemEntry .failed missingMessage)).run .free := by
  by_cases h : other = id
  · subst h
    refine Keeps.mono (Keeps.record fun r _ => ?_) fun p r ⟨r', hp, _⟩ => hp
    exact ⟨.free, .missing isMissingReport_systemEntry, rfl⟩
  · exact keeps_record_of_ne h

theorem keeps_record_opening :
    Keeps id (fun p r => p = .opened ∧ ∃ change, r = .ok (some change))
      (record id (systemEntry .finalizing)).run .cleared := by
  refine Keeps.mono (Keeps.record (Q := fun p r => p = .opened ∧ ∃ change, r = .ok (some change))
    fun r hr => ?_) ?_
  · obtain ⟨change, rfl⟩ := hr rfl rfl externalTime_systemEntry
    exact ⟨.opened, .begin isOpening_systemEntry, rfl, change, rfl⟩
  · rintro p r ⟨r', ⟨hp, change, rfl⟩, rfl⟩
    exact ⟨hp, change, rfl⟩

theorem keeps_record_ending {status : Status} {message : Option String}
    (hs : status.isTerminal = true) (hm : message ≠ some missingMessage) :
    Keeps id (fun p r => p = .left ∧ ∃ change, r = .ok (some change))
      (record id (systemEntry status message)).run .called := by
  refine Keeps.mono (Keeps.record (Q := fun p r => p = .left ∧ ∃ change, r = .ok (some change))
    fun r hr => ?_) ?_
  · obtain ⟨change, rfl⟩ := hr rfl rfl externalTime_systemEntry
    exact ⟨.left, .conclude (fun now => isEnding_systemEntry now hs)
      (fun now => isMissingReport_systemEntry_of_ne now hm), rfl, change, rfl⟩
  · rintro p r ⟨r', ⟨hp, change, rfl⟩, rfl⟩
    exact ⟨hp, change, rfl⟩

end Recording

end Tracker

end Mooring
