import Mooring.Proofs.Container.Chronicle
import Mooring.Proofs.Container.Noting

set_option autoImplicit false

/-!
# How a container is judged to have ended

The death of a container is the event that carries its exit status, but a record takes the first
exit code that any event brings. `Container.judgedByDeath_iff` says exactly for which events the
record is judged by the first death all the same. It is not when a command that ran inside the
container ended before with another outcome (`Container.not_judgedByDeath_exec`).
-/

namespace Mooring

namespace ContainerEvent

theorem isSome_exitCode?_of_carriesExit {e : ContainerEvent} (h : e.carriesExit = true) :
    e.exitCode?.isSome = true := by
  unfold exitCode?
  cases e.attributes.get? "exitCode" <;> simp [h]

/-- A death without an exit code has none that says that all went well. -/
theorem exitCode?_eq_zero_iff (e : ContainerEvent) :
    e.exitCode? = some "0" ↔ e.attributes.get? "exitCode" = some "0" := by
  unfold exitCode?
  cases e.attributes.get? "exitCode" <;> simp

/-- The first event that brings an exit code. -/
def firstCoded? (events : List ContainerEvent) : Option ContainerEvent :=
  events.find? fun e => e.exitCode?.isSome

/-- The exit code of the first death, if it has one. -/
def deathCode? (events : List ContainerEvent) : Option String :=
  (events.find? carriesExit).bind fun e => e.attributes.get? "exitCode"

theorem findSome?_exitCode? (events : List ContainerEvent) :
    events.findSome? exitCode? = (firstCoded? events).bind exitCode? := by
  induction events with
  | nil => rfl
  | cons e rest ih =>
    cases hcode : e.exitCode? with
    | none =>
      rw [List.findSome?_cons, hcode, firstCoded?, List.find?_cons_of_neg (by simp [hcode])]
      exact ih
    | some code =>
      rw [List.findSome?_cons, hcode, firstCoded?, List.find?_cons_of_pos (by simp [hcode]),
        Option.bind_some, hcode]

/-- Where the first exit code is that of a death, it is that of the first death. -/
theorem deathCode?_of_firstCoded? {events : List ContainerEvent} {e : ContainerEvent}
    (h : firstCoded? events = some e) (he : e.carriesExit = true) :
    deathCode? events = e.attributes.get? "exitCode" := by
  obtain ⟨-, before, after, rfl, hbefore⟩ := List.find?_eq_some_iff_append.1 h
  have hfirst : (before ++ e :: after).find? carriesExit = some e := by
    rw [List.find?_eq_some_iff_append]
    refine ⟨he, before, after, rfl, fun d hd => ?_⟩
    have hcode := hbefore d hd
    cases hdeath : d.carriesExit with
    | false => rfl
    | true =>
      rw [isSome_exitCode?_of_carriesExit hdeath] at hcode
      cases hcode
  rw [deathCode?, hfirst, Option.bind_some]

theorem deathCode?_of_firstCoded?_none {events : List ContainerEvent}
    (h : firstCoded? events = none) : deathCode? events = none := by
  have hnone : events.find? carriesExit = none := by
    rw [List.find?_eq_none]
    intro e he hdeath
    exact List.find?_eq_none.1 h e he (isSome_exitCode?_of_carriesExit hdeath)
  rw [deathCode?, hnone, Option.bind_none]

end ContainerEvent

namespace Container

open ContainerEvent

variable {c : Container} {events : List (Instant × ContainerEvent)}

/-- The record after the events of its container came in, each at some time. -/
def observed (c : Container) (events : List (Instant × ContainerEvent)) : Container :=
  c.offered (events.map fun e => .ofEvent e.1 e.2)

/-- Whether a container is judged to be complete just if its first recorded death says so. -/
def JudgedByDeath (c : Container) (events : List (Instant × ContainerEvent)) : Prop :=
  (c.observed events).terminalStatus = .complete ↔
    deathCode? (c.unrecorded (events.map Prod.snd)) = some "0"

theorem noted_observed (c : Container) (events : List (Instant × ContainerEvent)) :
    c.Noted (c.unrecorded (events.map Prod.snd)) (c.observed events) := by
  induction events generalizing c with
  | nil => exact .refl c
  | cons e rest ih =>
    cases hd : c.append? (.ofEvent e.1 e.2) with
    | none =>
      have hobserved : c.observed (e :: rest) = c.observed rest := by
        show (c.offer _).2.observed rest = _
        rw [offer_of_append?_none hd]
      rw [List.map_cons, unrecorded_of_refused hd, hobserved]
      exact ih c
    | some d =>
      have hobserved : c.observed (e :: rest) = d.observed rest := by
        show (c.offer _).2.observed rest = _
        rw [offer_of_append?_some hd]
      rw [List.map_cons, unrecorded_of_append? hd, hobserved]
      exact .cons hd (ih d)

theorem mem_of_mem_unrecorded {all : List ContainerEvent} {e : ContainerEvent}
    (h : e ∈ c.unrecorded all) : e ∈ all := by
  induction all generalizing c with
  | nil => cases h
  | cons f rest ih =>
    unfold unrecorded at h
    split at h
    · exact List.mem_cons_of_mem f (ih h)
    · rcases List.mem_cons.1 h with rfl | h
      · exact List.mem_cons_self
      · exact List.mem_cons_of_mem f (ih h)

/-- A container of which nothing was known before, and that nobody killed, is judged by the first
exit code that its recorded events bring. -/
theorem terminalStatus_observed (hhistory : c.history = []) (hmemo : c.exitMemo = none)
    (hkill : ∀ e ∈ events, e.2.status ≠ "kill") :
    (c.observed events).terminalStatus =
      if (firstCoded? (c.unrecorded (events.map Prod.snd))).bind ContainerEvent.exitCode? =
        some "0" then .complete else .failed := by
  have hkilled : (c.unrecorded (events.map Prod.snd)).any (fun e => e.status = "kill") = false := by
    rw [List.any_eq_false]
    intro e he
    obtain ⟨f, hf, rfl⟩ := List.mem_map.1 (mem_of_mem_unrecorded he)
    simpa using hkill f hf
  have hbefore : c.wasKilled = false := by rw [wasKilled, hhistory]; rfl
  have htask : c.taskCompleted = false := by rw [taskCompleted, hhistory]; rfl
  have hcode : c.exitCode? = none := by rw [exitCode?, hmemo, hhistory]; rfl
  rw [(noted_observed c events).terminalStatus, verdictAfter, hkilled, hbefore, htask, hcode,
    findSome?_exitCode?]
  simp

/-- A container of which nothing was known before, and that nobody killed, is judged by its first
recorded death exactly if the first exit code recorded is that of a death, or says no other than the
first death does. -/
theorem judgedByDeath_iff (hhistory : c.history = []) (hmemo : c.exitMemo = none)
    (hkill : ∀ e ∈ events, e.2.status ≠ "kill") :
    c.JudgedByDeath events ↔
      ∀ e, firstCoded? (c.unrecorded (events.map Prod.snd)) = some e →
        e.carriesExit = true ∨ (e.attributes.get? "exitCode" = some "0" ↔
          deathCode? (c.unrecorded (events.map Prod.snd)) = some "0") := by
  unfold JudgedByDeath
  rw [terminalStatus_observed hhistory hmemo hkill]
  cases hfirst : firstCoded? (c.unrecorded (events.map Prod.snd)) with
  | none =>
    rw [deathCode?_of_firstCoded?_none hfirst]
    simp
  | some e =>
    have hcomplete : (if (some e).bind ContainerEvent.exitCode? = some "0" then Status.complete
        else .failed) = .complete ↔ e.attributes.get? "exitCode" = some "0" := by
      rw [Option.bind_some, ← exitCode?_eq_zero_iff]
      by_cases hzero : e.exitCode? = some "0" <;> simp [hzero]
    rw [hcomplete]
    constructor
    · rintro h f hf
      cases hf
      exact .inr h
    · intro h
      rcases h e rfl with hdeath | hsame
      · rw [deathCode?_of_firstCoded? hfirst hdeath]
      · exact hsame

/-- A record of nothing yet. -/
def unseen : Container :=
  ofResolved .epoch { commandId := 1, commandName := "c", image := "busybox", commandLine := "true" }
    "admin"

/-- A command in the container fails before the container dies of an error. -/
def failingExec : List (Instant × ContainerEvent) :=
  [(.epoch, ⟨"start", "c1", 0, 1, .empty⟩),
    (.epoch, ⟨"exec_die", "c1", 0, 2, .ofPairs [("exitCode", "1")]⟩),
    (.epoch, ⟨"die", "c1", 0, 3, .ofPairs [("exitCode", "137")]⟩)]

theorem judgedByDeath_iff_failingExec :
    unseen.history = [] ∧ unseen.exitMemo = none ∧
      (∀ e ∈ failingExec, e.2.status ≠ "kill") ∧ unseen.JudgedByDeath failingExec := by
  have hkill : ∀ e ∈ failingExec, e.2.status ≠ "kill" := by decide
  refine ⟨rfl, rfl, hkill, (judgedByDeath_iff rfl rfl hkill).2 fun e he => .inr ?_⟩
  have hfirst : firstCoded? (unseen.unrecorded (failingExec.map Prod.snd)) =
      some ⟨"exec_die", "c1", 0, 2, .ofPairs [("exitCode", "1")]⟩ := by decide
  rw [hfirst] at he
  cases he
  decide

/-- A command in the container ends well before the container dies of an error. -/
def passingExec : List (Instant × ContainerEvent) :=
  [(.epoch, ⟨"exec_die", "c1", 0, 1, .ofPairs [("exitCode", "0")]⟩),
    (.epoch, ⟨"die", "c1", 0, 2, .ofPairs [("exitCode", "137")]⟩)]

/-- The end of a command in the container can decide how the container is judged. -/
theorem not_judgedByDeath_exec :
    unseen.history = [] ∧ unseen.exitMemo = none ∧
      (∀ e ∈ passingExec, e.2.status ≠ "kill") ∧ ¬ unseen.JudgedByDeath passingExec := by
  refine ⟨rfl, rfl, by decide, ?_⟩
  unfold JudgedByDeath
  decide

end Container

end Mooring
