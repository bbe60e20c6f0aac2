import Mooring.Error

set_option autoImplicit false

/-!
# Outstanding failures

An engine that stays down should be reported once. A run of failures of one kind is counted from its
first failure; another kind starts a new run, and a success ends it.
-/

namespace Mooring

/-- The kinds of failure of a poll. -/
inductive FailureKind where
  | notConfigured
  | engineUnavailable
  | engine
  | persistence
  | other
  deriving DecidableEq, Repr

/-- The kind of failure an error is. -/
def FailureKind.ofError : Error → FailureKind
  | .engine .notConfigured => notConfigured
  | .engine (.unavailable _) => engineUnavailable
  | .engine _ => engine
  | .store _ | .settings _ => persistence
  | _ => other

/-- A run of failures of one kind. -/
structure FailureRun where
  kind : FailureKind
  firstSeen : Instant
  attempts : Nat
  deriving DecidableEq

/-- The run of failures that has not ended, if there is one. -/
structure Failures where
  current : Option FailureRun := none
  deriving DecidableEq

namespace Failures

/-- Count a failure; true when it starts a new run. -/
def fail (f : Failures) (kind : FailureKind) (now : Instant) : Bool × Failures :=
  match f.current with
  | some r =>
    if r.kind = kind then (false, ⟨some { r with attempts := r.attempts + 1 }⟩)
    else (true, ⟨some ⟨kind, now, 1⟩⟩)
  | none => (true, ⟨some ⟨kind, now, 1⟩⟩)

/-- Note a success, which ends the run of failures, if there is one. -/
def succeed (f : Failures) : Option FailureRun × Failures :=
  (f.current, {})

end Failures

end Mooring
