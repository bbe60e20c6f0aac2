import Mathlib.Data.Fintype.Card
import Mathlib.Data.Fintype.EquivFin
import Mathlib.Data.Fintype.Sets
import Mooring.Proofs.Resolution.Order
import Mooring.Resolution.Basic

set_option autoImplicit false

/-!
# What inputs resolve to

The value of an input by recursion along its parents (`valueOf`), to compare with the loop that
resolves inputs one after another.
-/

namespace Mooring

namespace Command

/-- The parent of an input among the inputs of a command. -/
def parent? (c : Command) (i : Command.Input) : Option Command.Input :=
  i.parent.bind c.input?

/-- Whether one input is the parent of another. -/
def IsParent (c : Command) (p i : Command.Input) : Prop :=
  c.parent? i = some p

/-- Whether the inputs of a command have different names, and parents that are declared and lead to
no cycle. -/
structure IsOrderly (c : Command) : Prop where
  names : (c.inputs.map Command.Input.name).Nodup
  parents : ∀ i ∈ c.inputs, ∀ p, i.parent = some p → ∃ q ∈ c.inputs, q.name = p
  acyclic : ∀ i ∈ c.inputs, ¬ Relation.TransGen c.IsParent i i

variable {c : Command} {p i : Command.Input}

theorem mem_of_isParent (h : c.IsParent p i) : p ∈ c.inputs := by
  obtain ⟨name, -, hname⟩ := Option.bind_eq_some_iff.1 h
  exact List.mem_of_find?_eq_some hname

/-- Where parents have smaller ranks, no chain of parents meets itself. -/
theorem acyclic_of_rank (rank : Command.Input → Nat)
    (h : ∀ i ∈ c.inputs, ∀ p ∈ c.parent? i, rank p < rank i) :
    ∀ i ∈ c.inputs, ¬ Relation.TransGen c.IsParent i i := by
  have below : ∀ {p i}, Relation.TransGen c.IsParent p i → i ∈ c.inputs → rank p < rank i := by
    intro p i hchain
    induction hchain with
    | single hp => exact fun hi => h _ hi p hp
    | @tail j i _ hj ih => exact fun hi => (ih (mem_of_isParent hj)).trans (h i hi j hj)
  exact fun i hi hloop => Nat.lt_irrefl _ (below hloop hi)

/-- Parents lead nowhere but to inputs without a parent. -/
theorem IsOrderly.wellFounded (h : c.IsOrderly) : WellFounded c.IsParent := by
  let Above : {i // i ∈ c.inputs} → {i // i ∈ c.inputs} → Prop := fun p i =>
    Relation.TransGen c.IsParent p.1 i.1
  have : IsTrans _ Above := ⟨fun _ _ _ => Relation.TransGen.trans⟩
  have : Std.Irrefl Above := ⟨fun i => h.acyclic i.1 i.2⟩
  -- chains of parents order the inputs strictly, and these are finitely many
  have hwf : WellFounded Above := Finite.wellFounded_of_trans_of_irrefl Above
  have declared : ∀ i : {i // i ∈ c.inputs}, Acc c.IsParent i.1 := fun i =>
    hwf.induction i fun i ih => Acc.intro i.1 fun p hp =>
      ih ⟨p, mem_of_isParent hp⟩ (Relation.TransGen.single hp)
  exact ⟨fun i => Acc.intro i fun p hp => declared ⟨p, mem_of_isParent hp⟩⟩

end Command

namespace Resolution

/-- An input with the value that it resolves to. -/
def asResolved (i : Command.Input) (value : Option String) : Resolved.Input :=
  { name := i.name, type := i.type, value, parent := i.parent, sensitive := i.sensitive }

/-- The rule of an input, applied to the value supplied for it or else its default, to its matcher,
and to its parent. Paths in the value and the matcher are looked up in a document. -/
def derive [Regex.Compiler] (scope : Scope) (document : Json) (input : Command.Input)
    (parent : Option Resolved.Input) : Except ResolutionError (Option String) := do
  let value ← (scope.values input.name <|> input.defaultValue).mapM (Template.expand · document)
  let matcher ← input.matcher.mapM fun m => do
    Filter.parse (← Template.expand m document)
  match scope.rules input.type with
  | none => throw (.input input.name (.noRule input.type))
  | some rule => rule ⟨input, value, parent, matcher, scope.site⟩

/-- The value of an input by recursion along its parents. -/
def valueOf [Regex.Compiler] (scope : Scope) (c : Command) (h : WellFounded c.IsParent)
    (i : Command.Input) : Except ResolutionError (Option String) :=
  match _ : c.parent? i with
  | none => derive scope c.toJson i none
  | some p => do
    let value ← valueOf scope c h p
    derive scope c.toJson i (some (asResolved p value))
termination_by h.wrap i
decreasing_by exact ‹c.parent? i = some p›

section Values

variable {scope : Scope} {c : Command} {h : WellFounded c.IsParent} {i p : Command.Input}

theorem valueOf_of_none [Regex.Compiler] (hi : c.parent? i = none) :
    valueOf scope c h i = derive scope c.toJson i none := by
  rw [valueOf]
  split
  · rfl
  · next p hp =>
    rw [hi] at hp
    cases hp

theorem valueOf_of_isParent [Regex.Compiler] (hi : c.IsParent p i) :
    valueOf scope c h i =
      valueOf scope c h p >>= fun v => derive scope c.toJson i (some (asResolved p v)) := by
  rw [valueOf]
  split
  · next hnone =>
    rw [Command.IsParent, hnone] at hi
    cases hi
  · next q hq =>
    obtain rfl : p = q := Option.some.inj (hi.symm.trans hq)
    rfl

end Values

end Resolution

end Mooring
