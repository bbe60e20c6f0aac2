import Mooring.Proofs.Fallible
import Mooring.Proofs.Resolution.Reference

set_option autoImplicit false

/-!
# The loop over the inputs

Resolving the inputs of an orderly command one after another computes the reference. While the loop
runs, the map that it builds has the values of the inputs seen so far (`Holds`), which makes the
parent of the next input available to its rule.
-/

namespace Mooring

namespace Command

variable {c : Command} {i p : Command.Input}

theorem mem_of_input? {name : String} (h : c.input? name = some i) :
    i ∈ c.inputs ∧ i.name = name :=
  ⟨List.mem_of_find?_eq_some h, by simpa using List.find?_some h⟩

/-- Where names differ, an input is found by its name. -/
theorem input?_eq_some_iff (h : (c.inputs.map Command.Input.name).Nodup) {name : String} :
    c.input? name = some i ↔ i ∈ c.inputs ∧ i.name = name := by
  constructor
  · intro hi
    exact mem_of_input? hi
  · rintro ⟨hi, rfl⟩
    cases hfound : c.input? i.name with
    | none => simpa using List.find?_eq_none.1 hfound i hi
    | some j =>
      obtain ⟨hj, hname⟩ := mem_of_input? hfound
      rw [List.inj_on_of_nodup_map h hj hi hname]

/-- An input that names a parent has it. -/
theorem IsOrderly.parent_eq_none (h : c.IsOrderly) (hi : i ∈ c.inputs)
    (hnone : c.parent? i = none) : i.parent = none := by
  cases hp : i.parent with
  | none => rfl
  | some name =>
    obtain ⟨q, hq, hname⟩ := h.parents i hi name hp
    have hfound : c.input? name = some q := (input?_eq_some_iff h.names).2 ⟨hq, hname⟩
    rw [parent?, hp, Option.bind_some, hfound] at hnone
    cases hnone

theorem IsParent.parent_eq (h : c.IsParent p i) : i.parent = some p.name := by
  obtain ⟨name, hname, hp⟩ := Option.bind_eq_some_iff.1 h
  rw [hname, (mem_of_input? hp).2]

end Command

namespace Resolution

variable {scope : Scope} {c : Command} {h : WellFounded c.IsParent}
  {placed rest : List Command.Input} {resolved resolved' : OrderedMap Resolved.Input}
  {i : Command.Input}

/-- Whether an input gets a value, or may go without. -/
def Resolves [Regex.Compiler] (scope : Scope) (c : Command) (h : WellFounded c.IsParent)
    (i : Command.Input) : Prop :=
  ∃ v, valueOf scope c h i = .ok v ∧ (i.required = true → v.isSome = true)

/-- Whether a map has the values of some inputs. -/
def Holds [Regex.Compiler] (scope : Scope) (c : Command) (h : WellFounded c.IsParent)
    (resolved : OrderedMap Resolved.Input) (inputs : List Command.Input) : Prop :=
  ∀ i ∈ inputs, ∃ v, valueOf scope c h i = .ok v ∧ resolved.get? i.name = some (asResolved i v)

/-! ## One input -/

/-- With its parent at hand an input resolves to its reference value. -/
theorem resolveInput_eq [Regex.Compiler] (horderly : c.IsOrderly) (hi : i ∈ c.inputs)
    (hfirst : ∀ p, c.IsParent p i → p ∈ placed) (hm : Holds scope c h resolved placed) :
    resolveInput scope c.toJson resolved i = valueOf scope c h i := by
  show derive scope c.toJson i (i.parent.bind resolved.get?) = _
  cases hp : c.parent? i with
  | none =>
    rw [valueOf_of_none hp, horderly.parent_eq_none hi hp]
    rfl
  | some p =>
    -- the parent is in the map with its reference value
    obtain ⟨v, hv, hget⟩ := hm p (hfirst p hp)
    rw [valueOf_of_isParent hp, hv, Command.IsParent.parent_eq hp, Option.bind_some, hget]
    rfl

theorem addInput_eq [Regex.Compiler]
    (hv : resolveInput scope c.toJson resolved i = valueOf scope c h i) :
    addInput scope c.toJson resolved i =
      valueOf scope c h i >>= fun v =>
        if v.isNone && i.required then .error (.requiredInput i.name)
        else .ok (resolved.set i.name (asResolved i v)) := by
  unfold addInput
  rw [hv]
  refine congrArg (valueOf scope c h i >>= ·) (funext fun v => ?_)
  by_cases hmissing : (v.isNone && i.required) = true
  · rw [if_pos hmissing, if_pos hmissing]
    rfl
  · rw [if_neg hmissing, if_neg hmissing]
    rfl

/-- With its parent at hand an input is added just if it resolves. -/
theorem addInput_eq_ok_iff [Regex.Compiler] (horderly : c.IsOrderly) (hi : i ∈ c.inputs)
    (hfirst : ∀ p, c.IsParent p i → p ∈ placed) (hm : Holds scope c h resolved placed) :
    addInput scope c.toJson resolved i = .ok resolved' ↔
      ∃ v, valueOf scope c h i = .ok v ∧ (i.required = true → v.isSome = true) ∧
        resolved' = resolved.set i.name (asResolved i v) := by
  rw [addInput_eq (resolveInput_eq horderly hi hfirst hm), bind_eq_ok_iff]
  apply exists_congr
  intro v
  apply and_congr_right
  intro _
  by_cases hmissing : (v.isNone && i.required) = true
  · have hfails : ¬ (i.required = true → v.isSome = true) := by
      simp only [Bool.and_eq_true, Option.isNone_iff_eq_none] at hmissing
      simp [hmissing.1, hmissing.2]
    rw [if_pos hmissing]
    exact ⟨fun hadd => (nomatch hadd), fun hadd => absurd hadd.1 hfails⟩
  · have hpasses : i.required = true → v.isSome = true := by
      intro hrequired
      rw [hrequired, Bool.and_true, Bool.not_eq_true, Option.isNone_eq_false_iff] at hmissing
      exact hmissing
    rw [if_neg hmissing]
    exact ⟨fun hadd => ⟨hpasses, (Except.ok.inj hadd).symm⟩, fun hadd => by rw [hadd.2]⟩

/-- A new value does not take away those that are there. -/
theorem Holds.set [Regex.Compiler] (horderly : c.IsOrderly) (hplaced : ∀ p ∈ placed, p ∈ c.inputs)
    (hi : i ∈ c.inputs) (hm : Holds scope c h resolved placed) {v : Option String}
    (hv : valueOf scope c h i = .ok v) :
    Holds scope c h (resolved.set i.name (asResolved i v)) (i :: placed) := by
  intro p hp
  rcases List.mem_cons.1 hp with rfl | hp
  · exact ⟨v, hv, OrderedMap.get?_set_self ..⟩
  · -- names differ, so that the same name means the same input
    by_cases hname : p.name = i.name
    · obtain rfl := List.inj_on_of_nodup_map horderly.names (hplaced p hp) hi hname
      exact ⟨v, hv, OrderedMap.get?_set_self ..⟩
    · rw [OrderedMap.get?_set_of_ne _ _ hname]
      exact hm p hp

/-! ## The loop -/

/-- The loop ends well just if every input resolves, and then has all values. -/
theorem foldlM_addInput [Regex.Compiler] (horderly : c.IsOrderly)
    (hplaced : ∀ p ∈ placed, p ∈ c.inputs) (hrest : ∀ p ∈ rest, p ∈ c.inputs)
    (hfirst : ParentsFirst c.IsParent placed rest)
    (hm : Holds scope c h resolved placed) :
    ((∃ resolved', rest.foldlM (addInput scope c.toJson) resolved = .ok resolved') ↔
        ∀ i ∈ rest, Resolves scope c h i) ∧
      ∀ resolved', rest.foldlM (addInput scope c.toJson) resolved = .ok resolved' →
        Holds scope c h resolved' (placed ++ rest) := by
  induction rest generalizing placed resolved with
  | nil =>
    refine ⟨⟨fun _ i hi => absurd hi List.not_mem_nil, fun _ => ⟨resolved, rfl⟩⟩, ?_⟩
    rintro _ ⟨⟩
    rw [List.append_nil]
    exact hm
  | cons i rest ih =>
    obtain ⟨hparent, hfirst⟩ := hfirst
    have hi : i ∈ c.inputs := hrest i List.mem_cons_self
    have hplaced' : ∀ p ∈ i :: placed, p ∈ c.inputs := by
      intro p hp
      rcases List.mem_cons.1 hp with rfl | hp
      · exact hi
      · exact hplaced p hp
    have hrest' : ∀ p ∈ rest, p ∈ c.inputs := fun p hp => hrest p (List.mem_cons_of_mem i hp)
    -- the first input resolves and the loop over the others ends well, in either direction
    have cut : ∀ m', (i :: rest).foldlM (addInput scope c.toJson) resolved = .ok m' ↔
        ∃ v, (valueOf scope c h i = .ok v ∧ (i.required = true → v.isSome = true)) ∧
          rest.foldlM (addInput scope c.toJson) (resolved.set i.name (asResolved i v)) =
            .ok m' := by
      intro m'
      rw [List.foldlM_cons, bind_eq_ok_iff]
      simp only [addInput_eq_ok_iff horderly hi hparent hm]
      constructor
      · rintro ⟨_, ⟨v, hv, hrequired, rfl⟩, hm'⟩
        exact ⟨v, ⟨hv, hrequired⟩, hm'⟩
      · rintro ⟨v, ⟨hv, hrequired⟩, hm'⟩
        exact ⟨_, ⟨v, hv, hrequired, rfl⟩, hm'⟩
    refine ⟨⟨?_, ?_⟩, ?_⟩
    · -- an input that does not resolve would have ended the loop
      rintro ⟨m', hm'⟩ j hj
      obtain ⟨v, hv, hm'⟩ := (cut m').1 hm'
      rcases List.mem_cons.1 hj with rfl | hj
      · exact ⟨v, hv⟩
      · exact (ih hplaced' hrest' hfirst (hm.set horderly hplaced hi hv.1)).1.1 ⟨m', hm'⟩ j hj
    · intro hall
      obtain ⟨v, hv⟩ := hall i List.mem_cons_self
      obtain ⟨m', hm'⟩ := (ih hplaced' hrest' hfirst (hm.set horderly hplaced hi hv.1)).1.2
        fun j hj => hall j (List.mem_cons_of_mem i hj)
      exact ⟨m', (cut m').2 ⟨v, hv, hm'⟩⟩
    · intro m' hm'
      obtain ⟨v, hv, hm'⟩ := (cut m').1 hm'
      have hholds := (ih hplaced' hrest' hfirst (hm.set horderly hplaced hi hv.1)).2 m' hm'
      intro j hj
      apply hholds j
      simp only [List.mem_append, List.mem_cons] at hj ⊢
      tauto

/-! ## From indexes to inputs -/

/-- The parent of an input stands at the index of its parent. -/
theorem exists_isParentIndex {k : Nat} {x y : Command.Input} (hx : c.inputs[k]? = some x)
    (hy : c.IsParent y x) : ∃ p, IsParentIndex c.inputs p k ∧ c.inputs[p]? = some y := by
  obtain ⟨name, hname, hfound⟩ := Option.bind_eq_some_iff.1 hy
  obtain ⟨hmem, hyname⟩ := Command.mem_of_input? hfound
  obtain ⟨p, hp⟩ := Option.isSome_iff_exists.1 (isSome_indexOf? hmem hyname)
  refine ⟨p, ?_, ?_⟩
  · rw [IsParentIndex, parentIndex?, hx, Option.bind_some, hname, Option.bind_some, hp]
  · exact (find?_eq_of_indexOf? hp).symm.trans hfound

theorem exists_isParent {k p : Nat} (h : IsParentIndex c.inputs p k) :
    ∃ x y, c.inputs[k]? = some x ∧ c.inputs[p]? = some y ∧ c.IsParent y x := by
  obtain ⟨name, hname, hp⟩ := Option.bind_eq_some_iff.1 h
  obtain ⟨x, hx, hparent⟩ := Option.bind_eq_some_iff.1 hname
  obtain ⟨y, hy, -⟩ := name_of_indexOf? hp
  refine ⟨x, y, hx, hy, ?_⟩
  rw [Command.IsParent, Command.parent?, hparent, Option.bind_some]
  exact (find?_eq_of_indexOf? hp).trans hy

theorem exists_transGen_isParent {k p : Nat}
    (h : Relation.TransGen (IsParentIndex c.inputs) p k) :
    ∃ x y, c.inputs[k]? = some x ∧ c.inputs[p]? = some y ∧
      Relation.TransGen c.IsParent y x := by
  induction h with
  | single hstep =>
    obtain ⟨x, y, hx, hy, hparent⟩ := exists_isParent hstep
    exact ⟨x, y, hx, hy, .single hparent⟩
  | tail _ hstep ih =>
    obtain ⟨z, y, hz, hy, hchain⟩ := ih
    obtain ⟨x, z', hx, hz', hparent⟩ := exists_isParent hstep
    obtain rfl := Option.some.inj (hz.symm.trans hz')
    exact ⟨x, y, hx, hy, hchain.tail hparent⟩

theorem filterMap_range_getElem? {α : Type} (l : List α) :
    (List.range l.length).filterMap (l[·]?) = l := by
  induction l with
  | nil => rfl
  | cons a rest ih =>
    rw [List.length_cons, List.range_succ_eq_map, List.filterMap_cons, List.filterMap_map]
    exact congrArg (a :: ·) ih

/-- The loop visits every input of an orderly command once, each after its parent. -/
theorem exists_order (h : c.IsOrderly) :
    ∃ order, resolutionOrder c.inputs = .ok order ∧
      (order.filterMap (c.inputs[·]?)).Perm c.inputs ∧
      ParentsFirst c.IsParent [] (order.filterMap (c.inputs[·]?)) := by
  have hparents : ∀ i ∈ c.inputs, ∀ p, i.parent = some p →
      (indexOf? c.inputs p).isSome = true := by
    intro i hi p hp
    obtain ⟨q, hq, rfl⟩ := h.parents i hi p hp
    exact isSome_indexOf? hq rfl
  have hacyclic : ∀ k, ¬ Relation.TransGen (IsParentIndex c.inputs) k k := by
    intro k hk
    obtain ⟨x, y, hx, hy, hloop⟩ := exists_transGen_isParent hk
    obtain rfl := Option.some.inj (hx.symm.trans hy)
    exact h.acyclic x (List.mem_of_getElem? hx) hloop
  obtain ⟨order, horder, hperm, hfirst⟩ := resolutionOrder_ok hparents hacyclic
  refine ⟨order, horder, ?_, ?_⟩
  · have hall := hperm.filterMap (c.inputs[·]?)
    rwa [filterMap_range_getElem?] at hall
  · exact hfirst.filterMap fun k x y hx hy => exists_isParentIndex hx hy

/-! ## All inputs -/

/-- The entry that an input with a value has in the result. -/
def IsEntry [Regex.Compiler] (scope : Scope) (c : Command) (h : WellFounded c.IsParent)
    (i : Command.Input) (entry : String × Resolved.Input) : Prop :=
  ∃ v, valueOf scope c h i = .ok v ∧ entry = (i.name, asResolved i v)

/-- Looking up inputs in a map that has their values lists all of them. -/
theorem Holds.forall₂ [Regex.Compiler] {inputs : List Command.Input}
    (hm : Holds scope c h resolved inputs) :
    List.Forall₂ (IsEntry scope c h) inputs
      (inputs.filterMap fun i => (resolved.get? i.name).map fun r => (i.name, r)) := by
  induction inputs with
  | nil => exact .nil
  | cons i rest ih =>
    obtain ⟨v, hv, hget⟩ := hm i List.mem_cons_self
    rw [List.filterMap_cons, hget]
    exact .cons ⟨v, hv, rfl⟩ (ih fun j hj => hm j (List.mem_cons_of_mem i hj))

/-- Entries have the names of their inputs. -/
theorem map_fst_of_forall₂ [Regex.Compiler] {inputs : List Command.Input}
    {entries : List (String × Resolved.Input)}
    (hall : List.Forall₂ (IsEntry scope c h) inputs entries) :
    entries.map Prod.fst = inputs.map Command.Input.name := by
  induction hall with
  | nil => rfl
  | cons hentry _ ih =>
    obtain ⟨v, -, rfl⟩ := hentry
    rw [List.map_cons, List.map_cons, ih]

theorem lookup_of_forall₂ [Regex.Compiler] {inputs : List Command.Input}
    {entries : List (String × Resolved.Input)}
    (hall : List.Forall₂ (IsEntry scope c h) inputs entries)
    (hnames : (inputs.map Command.Input.name).Nodup) (hi : i ∈ inputs) :
    ∃ v, valueOf scope c h i = .ok v ∧ entries.lookup i.name = some (asResolved i v) := by
  induction hall with
  | nil => cases hi
  | @cons j _ _ rest hentry _ ih =>
    obtain ⟨v, hv, rfl⟩ := hentry
    obtain ⟨hnew, hnames⟩ := List.nodup_cons.1 hnames
    rcases List.mem_cons.1 hi with rfl | hi
    · exact ⟨v, hv, by rw [List.lookup_cons, beq_self_eq_true]⟩
    · obtain ⟨v', hv', hlookup⟩ := ih hnames hi
      have hne : (i.name == j.name) = false := by
        rw [beq_eq_false_iff_ne]
        intro hname
        exact hnew (hname ▸ List.mem_map_of_mem hi)
      refine ⟨v', hv', ?_⟩
      rw [List.lookup_cons, hne]
      exact hlookup

/-- The inputs of an orderly command resolve just if each does by itself, and the result lists every
input with its reference value, in the order of the declarations. -/
theorem resolveInputs_ok [Regex.Compiler] (horderly : c.IsOrderly) (h : WellFounded c.IsParent) :
    ((∃ m, resolveInputs scope c = .ok m) ↔ ∀ i ∈ c.inputs, Resolves scope c h i) ∧
      ∀ m, resolveInputs scope c = .ok m →
        List.Forall₂ (IsEntry scope c h) c.inputs m.entries := by
  obtain ⟨order, horder, hperm, hfirst⟩ := exists_order horderly
  have hvisited : ∀ p ∈ order.filterMap (c.inputs[·]?), p ∈ c.inputs := fun p hp =>
    hperm.mem_iff.1 hp
  have hstart : Holds scope c h .empty [] := fun p hp => absurd hp List.not_mem_nil
  obtain ⟨hloop, hvalues⟩ :=
    foldlM_addInput horderly (fun p hp => absurd hp List.not_mem_nil) hvisited hfirst hstart
  -- the result is what the map of the loop has, in the order of the declarations
  have hrun : ∀ m, resolveInputs scope c = .ok m ↔ ∃ resolved,
      (order.filterMap (c.inputs[·]?)).foldlM (addInput scope c.toJson) .empty = .ok resolved ∧
        m = .ofPairs
          (c.inputs.filterMap fun i => (resolved.get? i.name).map fun r => (i.name, r)) := by
    intro m
    unfold resolveInputs
    rw [horder]
    show (_ >>= fun resolved => Except.ok _) = _ ↔ _
    rw [bind_eq_ok_iff]
    exact exists_congr fun resolved => and_congr_right fun _ =>
      ⟨fun hm => (Except.ok.inj hm).symm, fun hm => by rw [hm]⟩
  constructor
  · constructor
    · rintro ⟨m, hm⟩ i hi
      obtain ⟨resolved, hresolved, -⟩ := (hrun m).1 hm
      exact hloop.1 ⟨resolved, hresolved⟩ i (hperm.mem_iff.2 hi)
    · intro hall
      obtain ⟨resolved, hresolved⟩ := hloop.2 fun i hi => hall i (hvisited i hi)
      exact ⟨_, (hrun _).2 ⟨resolved, hresolved, rfl⟩⟩
  · intro m hm
    obtain ⟨resolved, hresolved, rfl⟩ := (hrun m).1 hm
    have hholds : Holds scope c h resolved c.inputs := fun i hi =>
      hvalues resolved hresolved i (hperm.mem_iff.2 hi)
    -- names differ, so that collecting the pairs drops none of them
    have hnames : ((c.inputs.filterMap fun i =>
        (resolved.get? i.name).map fun r => (i.name, r)).map Prod.fst).Nodup := by
      rw [map_fst_of_forall₂ hholds.forall₂]
      exact horderly.names
    show List.Forall₂ _ _ (distinctPairs _)
    rw [distinctPairs_of_nodup hnames]
    exact hholds.forall₂

end Resolution

end Mooring
