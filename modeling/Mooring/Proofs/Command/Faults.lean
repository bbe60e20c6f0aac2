import Mathlib.Data.List.Nodup
import Mooring.Command.Check

set_option autoImplicit false

/-!
# Commands without faults

The checks of inputs, mounts and outputs are walks that remember the names they have passed. Such a
walk finds nothing just if the names differ and each item passes by itself (`walk_eq_nil_iff`). From
this follows what the commands are that pass their check (`check_eq_ok_iff_isSound`).
-/

namespace Mooring.Command

/-- Whether a command has an image, names that differ, and nothing that refers to what is not
declared, parents aside. -/
structure IsSound (c : Command) : Prop where
  image : Text.isBlankText c.image = false
  inputs : ∀ i ∈ c.inputs, Text.isBlankText i.name = false ∧ i.parent ≠ some i.name
  inputNames : (c.inputs.map Input.name).Nodup
  paths : ∀ m ∈ c.mounts, Text.isBlankText m.path = false
  sources : ∀ m ∈ c.mounts, ∀ s, m.sourceInput = some s → ∃ i ∈ c.inputs, i.name = s
  mountNames : (c.mounts.map Mount.name).Nodup
  outputs : ∀ o ∈ c.outputs, ∃ m ∈ c.mounts, m.name = o.mount
  outputNames : (c.outputs.map Output.name).Nodup

variable {c : Command} {seen : List String}

@[simp]
theorem faultUnless_eq_nil_iff {holds : Bool} {fault : CommandFault} :
    faultUnless holds fault = [] ↔ holds = true := by
  cases holds <;> simp [faultUnless]

/-- A walk that remembers names finds nothing just if no name is there twice and each item
passes. -/
theorem walk_eq_nil_iff {α : Type} {name : α → String} {passes : α → Prop}
    {walk : List String → List α → List CommandFault} (hnil : ∀ seen, walk seen [] = [])
    (hcons : ∀ seen x xs, walk seen (x :: xs) = [] ↔
      name x ∉ seen ∧ passes x ∧ walk (name x :: seen) xs = []) (xs : List α) :
    walk seen xs = [] ↔ (∀ x ∈ xs, name x ∉ seen ∧ passes x) ∧ (xs.map name).Nodup := by
  induction xs generalizing seen with
  | nil => simp [hnil]
  | cons x xs ih =>
    rw [hcons, ih, List.map_cons, List.nodup_cons, List.forall_mem_cons]
    simp only [List.mem_cons, not_or, List.mem_map, not_exists, not_and]
    constructor
    · rintro ⟨hnew, hx, hall, hnodup⟩
      exact ⟨⟨⟨hnew, hx⟩, fun y hy => ⟨(hall y hy).1.2, (hall y hy).2⟩⟩,
        fun y hy => (hall y hy).1.1, hnodup⟩
    · rintro ⟨⟨⟨hnew, hx⟩, hall⟩, hdiffer, hnodup⟩
      exact ⟨hnew, hx, fun y hy => ⟨⟨hdiffer y hy, (hall y hy).1⟩, (hall y hy).2⟩, hnodup⟩

theorem inputFaults_eq_nil_iff (is : List Input) :
    inputFaults seen is = [] ↔
      (∀ i ∈ is, i.name ∉ seen ∧ Text.isBlankText i.name = false ∧ i.parent ≠ some i.name) ∧
        (is.map Input.name).Nodup := by
  refine walk_eq_nil_iff (fun _ => rfl) (fun seen i is => ?_) is
  rw [inputFaults]
  cases Text.isBlankText i.name <;> simp

theorem declaresInput_iff {s : String} :
    c.declaresInput s = true ↔
      Text.isBlankText s = false ∧ ∃ i ∈ c.inputs, i.name = s := by
  simp [declaresInput]

theorem mountFaults_eq_nil_iff (ms : List Mount) :
    mountFaults c seen ms = [] ↔
      (∀ m ∈ ms, m.name ∉ seen ∧ Text.isBlankText m.path = false ∧
        ∀ s, m.sourceInput = some s → c.declaresInput s = true) ∧ (ms.map Mount.name).Nodup := by
  refine walk_eq_nil_iff (fun _ => rfl) (fun seen m ms => ?_) ms
  rw [mountFaults]
  simp [and_assoc]

theorem outputFaults_eq_nil_iff (os : List Output) :
    outputFaults c seen os = [] ↔
      (∀ o ∈ os, o.name ∉ seen ∧ ∃ m ∈ c.mounts, m.name = o.mount) ∧
        (os.map Output.name).Nodup := by
  refine walk_eq_nil_iff (fun _ => rfl) (fun seen o os => ?_) os
  rw [outputFaults]
  simp [declaresMount]

/-- A command passes its check just if it is sound. -/
theorem check_eq_ok_iff_isSound : c.check = .ok () ↔ c.IsSound := by
  rw [check_eq_ok_iff, faults, List.append_eq_nil_iff, List.append_eq_nil_iff,
    List.append_eq_nil_iff, faultUnless_eq_nil_iff, inputFaults_eq_nil_iff, mountFaults_eq_nil_iff,
    outputFaults_eq_nil_iff, Bool.not_eq_true']
  simp only [List.not_mem_nil, not_false_eq_true, true_and]
  constructor
  · rintro ⟨⟨⟨himage, hinputs, hinputNames⟩, hmounts, hmountNames⟩, houtputs, houtputNames⟩
    exact
      { image := himage
        inputs := hinputs
        inputNames := hinputNames
        paths := fun m hm => (hmounts m hm).1
        sources := fun m hm s hs => (declaresInput_iff.1 ((hmounts m hm).2 s hs)).2
        mountNames := hmountNames
        outputs := houtputs
        outputNames := houtputNames }
  · intro h
    refine ⟨⟨⟨h.image, h.inputs, h.inputNames⟩, fun m hm => ⟨h.paths m hm, fun s hs => ?_⟩,
      h.mountNames⟩, h.outputs, h.outputNames⟩
    -- a source is not blank, since no input has a blank name
    obtain ⟨i, hi, rfl⟩ := h.sources m hm s hs
    exact declaresInput_iff.2 ⟨(h.inputs i hi).1, i, hi, rfl⟩

end Mooring.Command
