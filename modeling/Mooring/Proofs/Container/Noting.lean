import Mooring.Proofs.Container.Timeless

set_option autoImplicit false

/-!
# What a record notes

What is told from a history, the exit code, a kill and the last task, follows the entries one by one
(`Container.exitCode?_of_append?` and the lemmas beside it). So the terminal status of a record that
notes some events of its container is told from the record before and the events that are new
(`Container.Noted.terminalStatus`).
-/

namespace Mooring

/-! ## What an entry adds -/

/-- Whether an entry says that the container was killed. -/
def HistoryEntry.isKill (e : HistoryEntry) : Bool :=
  match e.origin with
  | .event => e.status = "kill"
  | .user => e.status = Status.killed.name
  | _ => false

namespace Container

section Growing

variable {c d : Container} {e : HistoryEntry} (h : c.append? e = some d)
include h

theorem exitMemo_of_append? : d.exitMemo = c.exitMemo := by
  rw [eq_of_append? h]

theorem wasKilled_of_append? : d.wasKilled = (c.wasKilled || e.isKill) := by
  unfold wasKilled
  rw [history_of_append? h, List.any_append]
  exact congrArg (_ || ·) (Bool.or_false _)

theorem exitCode?_of_append? : d.exitCode? = (c.exitCode? <|> e.exitCode) := by
  unfold exitCode? firstExitCode?
  rw [exitMemo_of_append? h, history_of_append? h, List.findSome?_append]
  cases c.exitMemo with
  | some code => rfl
  | none =>
    cases c.history.findSome? HistoryEntry.exitCode <;> cases hcode : e.exitCode <;>
      simp [hcode]

theorem taskCompleted_of_append? (he : e.origin ≠ .service) :
    d.taskCompleted = c.taskCompleted := by
  unfold taskCompleted
  rw [history_of_append? h, List.reverse_append, List.reverse_singleton, List.singleton_append,
    List.find?_cons_of_neg (by simpa using he)]

end Growing

variable {c d : Container} {e : ContainerEvent} {now : Instant}

/-! ## What is newly recorded -/

/-- The events that are newly recorded when they come in order. -/
def unrecorded (c : Container) : List ContainerEvent → List ContainerEvent
  | [] => []
  | e :: rest =>
    match c.append? (.ofEvent .epoch e) with
    | none => c.unrecorded rest
    | some d => e :: d.unrecorded rest

theorem unrecorded_alike (h : c.timeless = d.timeless) (events : List ContainerEvent) :
    c.unrecorded events = d.unrecorded events := by
  induction events generalizing c d with
  | nil => rfl
  | cons e rest ih =>
    have hgrown := append?_alike h (e := .ofEvent .epoch e) rfl
    unfold unrecorded
    cases hc : c.append? (.ofEvent .epoch e) <;> cases hd : d.append? (.ofEvent .epoch e) <;>
      rw [hc, hd] at hgrown
    · exact ih h
    · cases hgrown
    · cases hgrown
    · exact congrArg (e :: ·) (ih (Option.some.inj hgrown))

theorem unrecorded_of_refused (h : c.append? (.ofEvent now e) = none)
    (rest : List ContainerEvent) : c.unrecorded (e :: rest) = c.unrecorded rest := by
  have hrefused : c.append? (.ofEvent .epoch e) = none := by
    rw [append?_eq_none_iff] at h ⊢
    exact h
  rw [unrecorded, hrefused]

theorem unrecorded_of_append? (h : c.append? (.ofEvent now e) = some d)
    (rest : List ContainerEvent) : c.unrecorded (e :: rest) = e :: d.unrecorded rest := by
  have hgrown := append?_alike (c := c) rfl (HistoryEntry.timeless_ofEvent now .epoch e)
  rw [h] at hgrown
  obtain ⟨d', hd', hsame⟩ := Option.map_eq_some_iff.1 hgrown.symm
  rw [unrecorded, hd']
  exact congrArg (e :: ·) (unrecorded_alike hsame rest)

/-- A record that gets the entries of some events one after another becomes another one. -/
inductive Noted : Container → List ContainerEvent → Container → Prop
  | refl (c : Container) : Noted c [] c
  | cons {c d d' : Container} {e : ContainerEvent} {new : List ContainerEvent} {now : Instant}
      (first : c.append? (.ofEvent now e) = some d) (rest : Noted d new d') :
      Noted c (e :: new) d'

/-! ## The status that a record with more events gets -/

/-- The terminal status of a container with some more events in its history. -/
def verdictAfter (c : Container) (new : List ContainerEvent) : Status :=
  if c.wasKilled || new.any (fun e => e.status = "kill") then .killed
  else if (c.exitCode? <|> new.findSome? ContainerEvent.exitCode?) = some "0" || c.taskCompleted
    then .complete
  else .failed

theorem verdictAfter_of_append? (h : c.append? (.ofEvent now e) = some d)
    (new : List ContainerEvent) : d.verdictAfter new = c.verdictAfter (e :: new) := by
  have hkilled : d.wasKilled = (c.wasKilled || decide (e.status = "kill")) := wasKilled_of_append? h
  have hcode : d.exitCode? = (c.exitCode? <|> e.exitCode?) := exitCode?_of_append? h
  have hfirst : (d.exitCode? <|> new.findSome? ContainerEvent.exitCode?) =
      (c.exitCode? <|> (e :: new).findSome? ContainerEvent.exitCode?) := by
    rw [hcode, List.findSome?_cons]
    cases c.exitCode? <;> cases e.exitCode? <;> rfl
  unfold verdictAfter
  rw [hfirst, hkilled, taskCompleted_of_append? h nofun, List.any_cons, Bool.or_assoc]

theorem Noted.terminalStatus {new : List ContainerEvent} (h : c.Noted new d) :
    d.terminalStatus = c.verdictAfter new := by
  induction h with
  | refl c =>
    have hcode : (c.exitCode? <|> [].findSome? ContainerEvent.exitCode?) = c.exitCode? := by
      cases c.exitCode? <;> rfl
    unfold verdictAfter Container.terminalStatus
    rw [hcode, List.any_nil, Bool.or_false]
  | cons first rest ih => rw [ih, verdictAfter_of_append? first]

end Container

end Mooring
