import Mooring.Proofs.Lifecycle.Relay

set_option autoImplicit false

/-!
# Protocols of routines

A protocol has stages, and says in each of them what may be expected of the answer to an action and
to which stage an action with its answer leads. A routine follows a protocol (`Follows`) if all its
actions lead somewhere, and its value agrees with the stage it ends in. Routines that are put
together follow a protocol one after the other.
-/

namespace Mooring

/-- What may be expected of answers, and where actions lead. -/
structure Protocol (ι : Type) where
  Expects : ι → (action : Action) → action.Answer → Prop
  Leads : ι → (action : Action) → action.Answer → ι → Prop

namespace Protocol

variable {ι α β : Type} {P : Protocol ι} {i : ι}

/-- Whether a routine follows a protocol from a stage on, and ends in a stage and with a value that
satisfy `Q`. -/
def Follows (P : Protocol ι) (Q : ι → α → Prop) : Routine α → ι → Prop
  | .done a, i => Q i a
  | .step action next, i => ∀ answer, P.Expects i action answer →
      ∃ j, P.Leads i action answer j ∧ P.Follows Q (next answer) j

theorem Follows.mono {Q R : ι → α → Prop} {t : Routine α} (h : P.Follows Q t i)
    (hQ : ∀ i a, Q i a → R i a) : P.Follows R t i := by
  induction t generalizing i with
  | done a => exact hQ i a h
  | step action next ih =>
    intro answer hexpects
    obtain ⟨j, hleads, hnext⟩ := h answer hexpects
    exact ⟨j, hleads, ih answer hnext⟩

theorem Follows.bind {Q : ι → α → Prop} {R : ι → β → Prop} {t : Routine α} {f : α → Routine β}
    (h : P.Follows Q t i) (hf : ∀ i a, Q i a → P.Follows R (f a) i) :
    P.Follows R (t.bind f) i := by
  induction t generalizing i with
  | done a => exact hf i a h
  | step action next ih =>
    intro answer hexpects
    obtain ⟨j, hleads, hnext⟩ := h answer hexpects
    exact ⟨j, hleads, ih answer hnext⟩

/-- The same for jobs: an error ends the job. -/
theorem Follows.bindJob {Q : ι → Except Error α → Prop} {R : ι → Except Error β → Prop}
    {j : Job α} {f : α → Job β} (h : P.Follows Q j.run i)
    (hok : ∀ i a, Q i (.ok a) → P.Follows R (f a).run i)
    (herr : ∀ i e, Q i (.error e) → R i (.error e)) : P.Follows R (j >>= f).run i := by
  refine Follows.bind h fun i r hr => ?_
  cases r with
  | ok a => exact hok i a hr
  | error e => exact herr i e hr

/-- Actions that lead back to a stage do not leave it. -/
theorem follows_of_all {K : Action → Prop} {t : Routine α} (h : t.All K)
    (hK : ∀ action, K action → ∀ answer, P.Leads i action answer i) :
    P.Follows (fun j _ => j = i) t i := by
  induction t with
  | done a => rfl
  | step action next ih =>
    exact fun answer _ => ⟨i, hK action h.1 answer, ih answer (h.2 answer)⟩

/-- The next action of a routine leads to a stage from which the rest follows the protocol. -/
theorem Follows.step {Q : ι → α → Prop} {action : Action} {next : action.Answer → Routine α}
    (h : P.Follows Q (.step action next) i) {answer : action.Answer}
    (hexpects : P.Expects i action answer) :
    ∃ j, P.Leads i action answer j ∧ P.Follows Q (next answer) j :=
  h answer hexpects

end Protocol

end Mooring
