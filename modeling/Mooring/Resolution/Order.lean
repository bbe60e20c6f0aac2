import Mooring.Resolution.Error

set_option autoImplicit false

/-!
# The order in which inputs resolve

An input resolves after its parent. `resolutionOrder` walks from each input up the chain of its
parents and lists the chain from its far end, so that inputs without a constraint between them keep
the order in which they are declared. A chain that meets itself is a cycle.
-/

namespace Mooring.Resolution

/-- The index of the first input of a name. -/
def indexOf? (inputs : List Command.Input) (name : String) : Option Nat :=
  inputs.findIdx? fun i => i.name = name

/-- The index of the parent of an input. -/
def parentIndex? (inputs : List Command.Input) (i : Nat) : Option Nat :=
  (inputs[i]?.bind Command.Input.parent).bind (indexOf? inputs)

/-- The name of the input at an index. -/
def nameAt (inputs : List Command.Input) (i : Nat) : String :=
  (inputs[i]?.map Command.Input.name).getD ""

/-- The first input, in declared order, whose parent is not declared. -/
def missingParent? (inputs : List Command.Input) : Option ResolutionError :=
  inputs.findSome? fun i =>
    match i.parent with
    | some p => if (indexOf? inputs p).isNone then some (.parentNotFound i.name p) else none
    | none => none

/-- The cycle closed at an index by a chain, which lists the latest index first. -/
def cycleAt (inputs : List Command.Input) (chain : List Nat) (i : Nat) : ResolutionError :=
  .circularParent
    ((i :: (chain.takeWhile (· != i)).reverse ++ [i]).map (nameAt inputs))

/-- Walk from an index up its parents, as far as they are still to be placed. The result is the
chain, the farthest parent first, and what is still to be placed after it. -/
def walk (inputs : List Command.Input) (unplaced chain : List Nat) (i : Nat) :
    Except ResolutionError (List Nat × List Nat) :=
  if chain.contains i then .error (cycleAt inputs chain i)
  else if _ : i ∈ unplaced then
    match parentIndex? inputs i with
    | some p => walk inputs (unplaced.erase i) (i :: chain) p
    | none => .ok (i :: chain, unplaced.erase i)
  else .ok (chain, unplaced)
termination_by unplaced.length
decreasing_by
  have := List.length_pos_of_mem ‹i ∈ unplaced›
  rw [List.length_erase_of_mem ‹i ∈ unplaced›]
  omega

/-- Place the inputs at the given indexes, each after its parents. -/
def placeAll (inputs : List Command.Input) : List Nat → List Nat → Except ResolutionError (List Nat)
  | _, [] => .ok []
  | unplaced, start :: starts => do
    if unplaced.contains start then
      let (chain, unplaced) ← walk inputs unplaced [] start
      return chain ++ (← placeAll inputs unplaced starts)
    else placeAll inputs unplaced starts

/-- The indexes of inputs in an order in which each comes after its parent. -/
def resolutionOrder (inputs : List Command.Input) : Except ResolutionError (List Nat) :=
  match missingParent? inputs with
  | some e => .error e
  | none => placeAll inputs (List.range inputs.length) (List.range inputs.length)

end Mooring.Resolution
