import Mooring.Proofs.Resolution.Order

set_option autoImplicit false

/-!
# What the search for an order answers

For inputs of different names the answer follows from the declarations (`resolutionOrder_answers`).
A parent that is not declared is reported for the first input that has one. Otherwise a circuit of
parents is reported, if there is one, as the names on it. Otherwise the answer is an order of all
inputs, parents first, in which an input is drawn before one declared earlier only as an ancestor of
one declared no later than that.
-/

namespace Mooring.Resolution

variable {inputs : List Command.Input}

/-- Whether an input has a name. -/
def IsDeclared (inputs : List Command.Input) (name : String) : Prop :=
  ∃ i ∈ inputs, i.name = name

/-- Whether the input at one place is the parent that the input at another place declares. -/
def IsParentAt (inputs : List Command.Input) (p i : Nat) : Prop :=
  ∃ parent child, inputs[p]? = some parent ∧ inputs[i]? = some child ∧
    child.parent = some parent.name

/-- Whether the input of one name declares another one as its parent. -/
def IsParentName (inputs : List Command.Input) (p name : String) : Prop :=
  ∃ i ∈ inputs, i.name = name ∧ i.parent = some p

/-- Whether every parent is declared. -/
def AllDeclared (inputs : List Command.Input) : Prop :=
  ∀ i ∈ inputs, ∀ p, i.parent = some p → IsDeclared inputs p

/-- Whether an order lists every input once, each after its parent, and in the order of declaration
as far as that allows. -/
structure IsOrder (inputs : List Command.Input) (order : List Nat) : Prop where
  perm : order.Perm (List.range inputs.length)
  parentsFirst : ∀ p i, IsParentAt inputs p i → order.idxOf p < order.idxOf i
  drawn : ∀ i j, i < j → j < inputs.length → order.idxOf j < order.idxOf i →
    ∃ k, k ≤ i ∧ Relation.TransGen (IsParentAt inputs) j k

/-- What the answer has to be for given declarations. -/
inductive Answers (inputs : List Command.Input) : Except ResolutionError (List Nat) → Prop
  | parentNotFound {before after : List Command.Input} {i : Command.Input} {p : String}
      (split : inputs = before ++ i :: after) (parent : i.parent = some p)
      (missing : ¬ IsDeclared inputs p)
      (first : ∀ j ∈ before, ∀ q, j.parent = some q → IsDeclared inputs q) :
      Answers inputs (.error (.parentNotFound i.name p))
  | circularParent {i : Nat} {path : List String} (declared : AllDeclared inputs)
      (circular : Relation.TransGen (IsParentAt inputs) i i)
      (circuit : IsCircuit (IsParentName inputs) path) :
      Answers inputs (.error (.circularParent path))
  | order {order : List Nat} (declared : AllDeclared inputs)
      (acyclic : ∀ i, ¬ Relation.TransGen (IsParentAt inputs) i i)
      (isOrder : IsOrder inputs order) : Answers inputs (.ok order)

/-! ## Places and names -/

theorem isSome_indexOf?_iff {name : String} :
    (indexOf? inputs name).isSome = true ↔ IsDeclared inputs name := by
  constructor
  · intro h
    obtain ⟨i, hi⟩ := Option.isSome_iff_exists.1 h
    obtain ⟨x, hx, hname⟩ := name_of_indexOf? hi
    exact ⟨x, List.mem_of_getElem? hx, hname⟩
  · rintro ⟨x, hx, hname⟩
    exact isSome_indexOf? hx hname

/-- Where names differ, a name leads to its place. -/
theorem indexOf?_of_getElem? (hnames : (inputs.map Command.Input.name).Nodup) {i : Nat}
    {x : Command.Input} (hx : inputs[i]? = some x) : indexOf? inputs x.name = some i := by
  obtain ⟨j, hj⟩ := Option.isSome_iff_exists.1
    (isSome_indexOf? (List.mem_of_getElem? hx) rfl)
  obtain ⟨y, hy, hname⟩ := name_of_indexOf? hj
  have hnamej : (inputs.map Command.Input.name)[j]? = some x.name := by
    rw [List.getElem?_map, hy, Option.map_some, hname]
  have hnamei : (inputs.map Command.Input.name)[i]? = some x.name := by
    rw [List.getElem?_map, hx, Option.map_some]
  have hlt : j < (inputs.map Command.Input.name).length := by
    rw [List.length_map]
    exact lt_length_of_indexOf? hj
  rw [hj, (List.getElem?_inj hlt hnames).1 (hnamej.trans hnamei.symm)]

theorem isParentAt_iff (hnames : (inputs.map Command.Input.name).Nodup) {p i : Nat} :
    IsParentAt inputs p i ↔ IsParentIndex inputs p i := by
  constructor
  · rintro ⟨parent, child, hp, hi, hparent⟩
    rw [IsParentIndex, parentIndex?, hi, Option.bind_some, hparent, Option.bind_some]
    exact indexOf?_of_getElem? hnames hp
  · intro h
    obtain ⟨name, hname, hp⟩ := Option.bind_eq_some_iff.1 h
    obtain ⟨child, hi, hparent⟩ := Option.bind_eq_some_iff.1 hname
    obtain ⟨parent, hparentAt, rfl⟩ := name_of_indexOf? hp
    exact ⟨parent, child, hparentAt, hi, hparent⟩

theorem isParentAt_eq (hnames : (inputs.map Command.Input.name).Nodup) :
    IsParentAt inputs = IsParentIndex inputs := by
  funext p i
  exact propext (isParentAt_iff hnames)

theorem nameAt_of_getElem? {i : Nat} {x : Command.Input} (hx : inputs[i]? = some x) :
    nameAt inputs i = x.name := by
  rw [nameAt, hx]
  rfl

theorem isParentName_of_isParentIndex {p i : Nat} (h : IsParentIndex inputs p i) :
    IsParentName inputs (nameAt inputs p) (nameAt inputs i) := by
  obtain ⟨name, hname, hp⟩ := Option.bind_eq_some_iff.1 h
  obtain ⟨child, hi, hparent⟩ := Option.bind_eq_some_iff.1 hname
  obtain ⟨parent, hparentAt, rfl⟩ := name_of_indexOf? hp
  rw [nameAt_of_getElem? hparentAt, nameAt_of_getElem? hi]
  exact ⟨child, List.mem_of_getElem? hi, rfl, hparent⟩

/-- Different places have inputs of different names. -/
theorem nameAt_inj (hnames : (inputs.map Command.Input.name).Nodup) {i j : Nat}
    (hi : i < inputs.length) (hj : j < inputs.length) (h : nameAt inputs i = nameAt inputs j) :
    i = j := by
  rw [nameAt_of_getElem? (List.getElem?_eq_getElem hi),
    nameAt_of_getElem? (List.getElem?_eq_getElem hj)] at h
  have hplace := indexOf?_of_getElem? hnames (List.getElem?_eq_getElem hi)
  rw [h, indexOf?_of_getElem? hnames (List.getElem?_eq_getElem hj)] at hplace
  exact (Option.some.inj hplace).symm

/-- A circuit of places is one of names. -/
theorem isCircuit_map_nameAt (hnames : (inputs.map Command.Input.name).Nodup) {path : List Nat}
    (h : IsCircuit (IsParentIndex inputs) path) :
    IsCircuit (IsParentName inputs) (path.map (nameAt inputs)) := by
  have hlt : ∀ i ∈ path, i < inputs.length := by
    intro i hi
    obtain ⟨p, hp⟩ := h.exists_isParent hi
    exact lt_length_of_isParentIndex_left hp
  exact h.map (fun p i hp => isParentName_of_isParentIndex hp) fun i hi j hj hname =>
    nameAt_inj hnames (hlt i hi) (hlt j hj) hname

/-! ## Positions in an order -/

/-- In an order with parents first, a parent stands before its child. -/
theorem ParentsFirst.idxOf_lt {isParent : Nat → Nat → Prop} {placed order : List Nat} {p i : Nat}
    (h : ParentsFirst isParent placed order) (hi : i ∈ order) (hp : isParent p i)
    (hplaced : p ∉ placed) : order.idxOf p < order.idxOf i := by
  induction order generalizing placed with
  | nil => cases hi
  | cons x rest ih =>
    obtain ⟨hx, hrest⟩ := h
    have hne : x ≠ i := by
      rintro rfl
      exact hplaced (hx p hp)
    have hi' : i ∈ rest := (List.mem_cons.1 hi).resolve_left (Ne.symm hne)
    rw [List.idxOf_cons_ne rest hne]
    by_cases hpx : x = p
    · rw [hpx, List.idxOf_cons_self]
      exact Nat.succ_pos _
    · rw [List.idxOf_cons_ne rest hpx]
      refine Nat.succ_lt_succ (ih hrest hi' fun hmem => ?_)
      rcases List.mem_cons.1 hmem with h | h
      · exact hpx h.symm
      · exact hplaced h

/-- What holds of all pairs of a list in their order holds of two items by their positions. -/
theorem rel_of_idxOf_lt {R : Nat → Nat → Prop} {order : List Nat} {j i : Nat}
    (h : order.Pairwise R) (hi : i ∈ order) (hlt : order.idxOf j < order.idxOf i) : R j i := by
  have hlength := List.idxOf_lt_length_of_mem hi
  have hrel := List.pairwise_iff_getElem.1 h _ _ (hlt.trans hlength) hlength hlt
  rwa [List.getElem_idxOf, List.getElem_idxOf] at hrel

theorem isOrder_of_placeAll (hnames : (inputs.map Command.Input.name).Nodup) {order : List Nat}
    (h : placeAll inputs (List.range inputs.length) (List.range inputs.length) = .ok order) :
    IsOrder inputs order := by
  obtain ⟨hperm, hfirst, hdrawn⟩ := placeAll_range_ok h
  have hmem : ∀ i, i < inputs.length → i ∈ order := fun i hi =>
    hperm.mem_iff.2 (List.mem_range.2 hi)
  rw [← isParentAt_eq hnames] at hfirst hdrawn
  refine ⟨hperm, fun p i hp => ?_, fun i j hij hj hbefore => ?_⟩
  · have hi : i < inputs.length :=
      lt_length_of_isParentIndex_left ((isParentAt_iff hnames).1 hp)
    exact hfirst.idxOf_lt (hmem i hi) hp List.not_mem_nil
  · exact rel_of_idxOf_lt hdrawn (hmem i (hij.trans hj)) hbefore hij

/-- No chain of parents meets itself in an order with parents first. -/
theorem IsOrder.acyclic {order : List Nat} (h : IsOrder inputs order) (i : Nat) :
    ¬ Relation.TransGen (IsParentAt inputs) i i := by
  have hbefore : ∀ {p i}, Relation.TransGen (IsParentAt inputs) p i →
      order.idxOf p < order.idxOf i := by
    intro p i hchain
    induction hchain with
    | single hp => exact h.parentsFirst _ _ hp
    | tail _ hp ih => exact ih.trans (h.parentsFirst _ _ hp)
  exact fun hloop => Nat.lt_irrefl _ (hbefore hloop)

/-! ## The answer -/

theorem parentNotFound_of_missingParent? {e : ResolutionError}
    (h : missingParent? inputs = some e) : Answers inputs (.error e) := by
  obtain ⟨before, i, after, hsplit, hfault, hbefore⟩ := List.findSome?_eq_some_iff.1 h
  have hdeclared : ∀ p, (indexOf? inputs p).isNone = true ↔ ¬ IsDeclared inputs p := by
    intro p
    rw [← isSome_indexOf?_iff]
    cases indexOf? inputs p <;> simp
  have hfirst : ∀ j ∈ before, ∀ q, j.parent = some q → IsDeclared inputs q := by
    intro j hj q hq
    have hnone := hbefore j hj
    rw [hq] at hnone
    by_contra hnot
    simp [(hdeclared q).2 hnot] at hnone
  cases hp : i.parent with
  | none =>
    rw [hp] at hfault
    cases hfault
  | some p =>
    rw [hp] at hfault
    by_cases hmissing : (indexOf? inputs p).isNone = true
    · simp only [hmissing, if_true, Option.some.injEq] at hfault
      rw [← hfault]
      exact .parentNotFound hsplit hp ((hdeclared p).1 hmissing) hfirst
    · simp [hmissing] at hfault

theorem allDeclared_of_missingParent? (h : missingParent? inputs = none) :
    AllDeclared inputs := by
  intro i hi p hp
  have hnone := List.findSome?_eq_none_iff.1 h i hi
  rw [hp] at hnone
  rw [← isSome_indexOf?_iff]
  cases hindex : indexOf? inputs p with
  | none => simp [hindex] at hnone
  | some j => rfl

/-- The answer is the one that the declarations call for. -/
theorem resolutionOrder_answers (hnames : (inputs.map Command.Input.name).Nodup) :
    Answers inputs (resolutionOrder inputs) := by
  unfold resolutionOrder
  cases hmissing : missingParent? inputs with
  | some e => exact parentNotFound_of_missingParent? hmissing
  | none =>
    have hdeclared := allDeclared_of_missingParent? hmissing
    show Answers inputs (placeAll inputs _ _)
    cases hplaced : placeAll inputs (List.range inputs.length) (List.range inputs.length) with
    | error e =>
      obtain ⟨path, hpath, rfl⟩ := placeAll_error hplaced
      obtain ⟨i, hi⟩ := hpath.exists_transGen
      rw [← isParentAt_eq hnames] at hi
      exact .circularParent hdeclared hi (isCircuit_map_nameAt hnames hpath)
    | ok order =>
      have horder := isOrder_of_placeAll hnames hplaced
      exact .order hdeclared horder.acyclic horder

/-- Inputs whose parents are declared after them, with one that has none in between. -/
def scattered : List Command.Input :=
  [{ name := "scan", parent := some "session" }, { name := "flag" }, { name := "session" },
    { name := "file", parent := some "resource" }, { name := "resource", parent := some "scan" }]

theorem resolutionOrder_answers_scattered : (scattered.map Command.Input.name).Nodup ∧
    resolutionOrder scattered = .ok [2, 0, 1, 4, 3] ∧ Answers scattered (.ok [2, 0, 1, 4, 3]) := by
  have hnames : (scattered.map Command.Input.name).Nodup := by decide
  have horder : resolutionOrder scattered = .ok [2, 0, 1, 4, 3] := by
    rw [resolutionOrder, show missingParent? scattered = none by decide]
    cbv
  refine ⟨hnames, horder, ?_⟩
  rw [← horder]
  exact resolutionOrder_answers hnames

/-- A circuit is reported from where the search meets it, for an input that only leads to it too. -/
example : resolutionOrder [{ name := "free" }, { name := "leads", parent := some "c" },
    { name := "a", parent := some "c" }, { name := "b", parent := some "a" },
    { name := "c", parent := some "b" }] =
      .error (.circularParent ["c", "b", "a", "c"]) := by
  rw [resolutionOrder, show missingParent? _ = none by decide]
  cbv

end Mooring.Resolution
