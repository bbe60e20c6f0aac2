import Mathlib.Data.List.Chain
import Mathlib.Data.List.Nodup
import Mathlib.Logic.Relation
import Mooring.Proofs.Fallible
import Mooring.Resolution.Order

set_option autoImplicit false

/-!
# The order found for inputs

The walk up a chain of parents either places what it meets, parents first (`walk_ok`), or meets an
index of its own chain again, which closes a circuit of parents (`walk_error`). So an order that is
found lists every input once, each after its parent (`placeAll_ok`), and where none is found there
is a circuit (`placeAll_error`). Where every parent is declared and no chain of parents meets
itself, an order is found (`resolutionOrder_ok`).
-/

namespace Mooring.Resolution

/-- Whether one index is that of the parent of another. -/
def IsParentIndex (inputs : List Command.Input) (p i : Nat) : Prop :=
  parentIndex? inputs i = some p

/-- Whether all that a list orders comes after its parents, where some are placed before all. -/
def ParentsFirst {α : Type} (isParent : α → α → Prop) : List α → List α → Prop
  | _, [] => True
  | placed, i :: rest =>
    (∀ p, isParent p i → p ∈ placed) ∧ ParentsFirst isParent (i :: placed) rest

namespace ParentsFirst

variable {α β : Type} {isParent : α → α → Prop} {placed more earlier later order : List α}

theorem mono (h : ParentsFirst isParent placed order) (hsub : ∀ p ∈ placed, p ∈ more) :
    ParentsFirst isParent more order := by
  induction order generalizing placed more with
  | nil => trivial
  | cons i rest ih =>
    obtain ⟨hi, hrest⟩ := h
    constructor
    · intro p hp
      exact hsub p (hi p hp)
    · apply ih hrest
      intro p hp
      rcases List.mem_cons.1 hp with rfl | hp
      · exact List.mem_cons_self
      · exact List.mem_cons_of_mem i (hsub p hp)

/-- What follows an order may count on it. -/
theorem append (h : ParentsFirst isParent placed earlier)
    (hlater : ParentsFirst isParent more later) (hsub : ∀ p ∈ more, p ∈ placed ∨ p ∈ earlier) :
    ParentsFirst isParent placed (earlier ++ later) := by
  induction earlier generalizing placed with
  | nil => exact hlater.mono fun p hp => (hsub p hp).resolve_right List.not_mem_nil
  | cons i rest ih =>
    obtain ⟨hi, hrest⟩ := h
    refine ⟨hi, ih hrest fun p hp => ?_⟩
    rcases hsub p hp with hp | hp
    · exact .inl (List.mem_cons_of_mem i hp)
    · rcases List.mem_cons.1 hp with rfl | hp
      · exact .inl List.mem_cons_self
      · exact .inr hp

/-- An order of places is one of what stands there. -/
theorem filterMap {isParent' : β → β → Prop} {f : α → Option β}
    (h : ParentsFirst isParent placed order)
    (hf : ∀ i x y, f i = some x → isParent' y x → ∃ p, isParent p i ∧ f p = some y) :
    ParentsFirst isParent' (placed.filterMap f) (order.filterMap f) := by
  induction order generalizing placed with
  | nil => trivial
  | cons i rest ih =>
    obtain ⟨hi, hrest⟩ := h
    have hrest' := ih hrest
    cases hx : f i with
    | none =>
      rw [List.filterMap_cons_none hx] at hrest' ⊢
      exact hrest'
    | some x =>
      rw [List.filterMap_cons_some hx] at hrest' ⊢
      refine ⟨fun y hy => ?_, hrest'⟩
      obtain ⟨p, hp, hpy⟩ := hf i x y hx hy
      exact List.mem_filterMap.2 ⟨p, hi p hp, hpy⟩

end ParentsFirst

variable {inputs : List Command.Input}

/-! ## Indexes -/

theorem lt_length_of_indexOf? {name : String} {i : Nat} (h : indexOf? inputs name = some i) :
    i < inputs.length :=
  (List.findIdx?_eq_some_iff_getElem.1 h).1

theorem isSome_indexOf? {x : Command.Input} {name : String} (hx : x ∈ inputs)
    (hname : x.name = name) : (indexOf? inputs name).isSome = true := by
  rw [indexOf?, List.findIdx?_isSome, List.any_eq_true]
  exact ⟨x, hx, by simpa using hname⟩

theorem name_of_indexOf? {name : String} {i : Nat} (h : indexOf? inputs name = some i) :
    ∃ x, inputs[i]? = some x ∧ x.name = name := by
  obtain ⟨hlt, hname, -⟩ := List.findIdx?_eq_some_iff_getElem.1 h
  exact ⟨inputs[i], List.getElem?_eq_getElem hlt, by simpa using hname⟩

/-- The first input of a name is the one at its index. -/
theorem find?_eq_of_indexOf? {name : String} {i : Nat} (h : indexOf? inputs name = some i) :
    inputs.find? (fun x => x.name = name) = inputs[i]? := by
  obtain ⟨hlt, hname, hfirst⟩ := List.findIdx?_eq_some_iff_getElem.1 h
  rw [List.getElem?_eq_getElem hlt, List.find?_eq_some_iff_getElem]
  exact ⟨hname, i, hlt, rfl, fun j hj => by simpa using hfirst j hj⟩

theorem lt_length_of_isParentIndex {p i : Nat} (h : IsParentIndex inputs p i) :
    p < inputs.length := by
  obtain ⟨name, -, hname⟩ := Option.bind_eq_some_iff.1 h
  exact lt_length_of_indexOf? hname

theorem lt_length_of_isParentIndex_left {p i : Nat} (h : IsParentIndex inputs p i) :
    i < inputs.length := by
  obtain ⟨name, hname, -⟩ := Option.bind_eq_some_iff.1 h
  obtain ⟨child, hi, -⟩ := Option.bind_eq_some_iff.1 hname
  exact (List.getElem?_eq_some_iff.1 hi).1

/-! ## Circuits -/

/-- Whether a list leads from an item around its parents back to it, each item followed by its
parent. -/
structure IsCircuit {α : Type} (isParent : α → α → Prop) (path : List α) : Prop where
  two_le : 2 ≤ path.length
  closed : path.head? = path.getLast?
  distinct : path.dropLast.Nodup
  parents : path.IsChain fun child parent => isParent parent child

section Circuits

variable {α β : Type} {isParent : α → α → Prop} {path chain : List α} {i : α}

/-- A circuit brings its first item back to itself. -/
theorem IsCircuit.exists_transGen (h : IsCircuit isParent path) :
    ∃ i, Relation.TransGen isParent i i := by
  obtain ⟨hlength, hclosed, -, hparents⟩ := h
  match path with
  | first :: second :: rest =>
    obtain ⟨hsecond, hrest⟩ := List.isChain_cons_cons.1 hparents
    have hlast : (second :: rest).getLast (List.cons_ne_nil _ _) = first := by
      rw [List.head?_cons, List.getLast?_cons_cons, List.getLast?_eq_some_getLast] at hclosed
      exact (Option.some.inj hclosed).symm
    have hback := List.relationReflTransGen_of_exists_isChain_cons _ hrest hlast
    exact ⟨first, Relation.transGen_swap.1 (.head' hsecond hback)⟩

/-- Every item of a circuit has its parent there. -/
theorem IsCircuit.exists_isParent (h : IsCircuit isParent path) (hi : i ∈ path) :
    ∃ p, isParent p i := by
  have hparents := List.isChain_iff_getElem.1 h.parents
  have hlength := h.two_le
  obtain ⟨k, hk, rfl⟩ := List.getElem_of_mem hi
  by_cases hnext : k + 1 < path.length
  · exact ⟨_, hparents k hnext⟩
  · -- the last item is the first, which is followed by its parent
    have hfirst : 0 < path.length := by omega
    have hlast : path.length - 1 = k := by omega
    have hclosed := h.closed
    rw [List.head?_eq_getElem?, List.getLast?_eq_getElem?, hlast, List.getElem?_eq_getElem hfirst,
      List.getElem?_eq_getElem hk] at hclosed
    rw [← Option.some.inj hclosed]
    exact ⟨_, hparents 0 hlength⟩

/-- Names make a circuit of what they name, where they tell its items apart. -/
theorem IsCircuit.map {isParent' : β → β → Prop} {f : α → β} (h : IsCircuit isParent path)
    (hparent : ∀ p x, isParent p x → isParent' (f p) (f x))
    (hinj : ∀ x ∈ path, ∀ y ∈ path, f x = f y → x = y) : IsCircuit isParent' (path.map f) where
  two_le := by simpa using h.two_le
  closed := by rw [List.head?_map, List.getLast?_map, h.closed]
  distinct := by
    rw [← List.map_dropLast]
    exact h.distinct.map_on fun x hx y hy =>
      hinj x (List.dropLast_subset path hx) y (List.dropLast_subset path hy)
  parents := List.isChain_map_of_isChain f (fun x p hp => hparent p x hp) h.parents

/-- A chain of descendants that holds where it leads closes a circuit there. -/
theorem isCircuit_of_isChain [DecidableEq α] (hchain : (i :: chain).IsChain isParent)
    (hnodup : chain.Nodup) (hmem : i ∈ chain) :
    IsCircuit isParent (i :: (chain.takeWhile (· != i)).reverse ++ [i]) := by
  obtain ⟨inner, outer, rfl, hnot⟩ := List.eq_append_cons_of_mem hmem
  have hinner : (inner ++ i :: outer).takeWhile (· != i) = inner := by
    rw [List.takeWhile_append_of_pos fun x hx => by simpa using ne_of_mem_of_not_mem hx hnot]
    simp
  have hpath : i :: inner.reverse ++ [i] = (i :: (inner ++ [i])).reverse := by simp
  rw [hinner]
  refine ⟨by simp, by rw [List.getLast?_concat]; rfl, ?_, ?_⟩
  · -- the inside of the circuit is an initial part of the chain
    rw [List.dropLast_concat, List.nodup_cons, List.mem_reverse, List.nodup_reverse]
    exact ⟨hnot, (List.nodup_append.1 hnodup).1⟩
  · rw [hpath, List.isChain_reverse]
    apply hchain.prefix
    exact ⟨outer, by simp⟩

end Circuits

/-- Whether an index may come before another one: it is not the greater one, or an ancestor of one
that is not greater than the other. -/
def IsDrawn (isParent : Nat → Nat → Prop) (j i : Nat) : Prop :=
  i < j → ∃ k, k ≤ i ∧ Relation.TransGen isParent j k

/-! ## Walking up a chain -/

/-- What a walk places is what was still to be placed of the chain of parents from where it stands,
the farthest parent first. -/
theorem walk_ok {unplaced chain placed out rest : List Nat} {i : Nat}
    (h : walk inputs unplaced chain i = .ok (out, rest)) (hi : i < inputs.length)
    (hplaced : ∀ p, p < inputs.length → p ∉ unplaced → p ∉ chain → p ∈ placed)
    (hfirst : ParentsFirst (IsParentIndex inputs) (i :: placed) chain) :
    ∃ new, out = new ++ chain ∧ unplaced.Perm (new ++ rest) ∧ (i ∈ unplaced → i ∈ new) ∧
      (∀ x ∈ new, Relation.ReflTransGen (IsParentIndex inputs) x i) ∧
      ParentsFirst (IsParentIndex inputs) placed out := by
  -- the induction is on the recursion of the walk
  fun_induction walk inputs unplaced chain i with
  | case1 unplaced chain i hcycle => cases h
  | case2 unplaced chain i hnot hmem p hp ih =>
    have hplaced' : ∀ q, q < inputs.length → q ∉ unplaced.erase i → q ∉ i :: chain →
        q ∈ placed := by
      intro q hq hunplaced hqchain
      rw [List.mem_cons, not_or] at hqchain
      obtain ⟨hne, hqchain⟩ := hqchain
      exact hplaced q hq (fun h => hunplaced ((List.mem_erase_of_ne hne).2 h)) hqchain
    have hfirst' : ParentsFirst (IsParentIndex inputs) (p :: placed) (i :: chain) := by
      constructor
      · intro q hq
        obtain rfl : p = q := Option.some.inj (hp.symm.trans hq)
        exact List.mem_cons_self
      · apply hfirst.mono
        intro q hq
        rcases List.mem_cons.1 hq with rfl | hq
        · exact List.mem_cons_self
        · exact List.mem_cons_of_mem i (List.mem_cons_of_mem p hq)
    -- the chain of the parent is placed before the input itself
    obtain ⟨new, rfl, hperm, -, habove, hdone⟩ :=
      ih h (lt_length_of_isParentIndex hp) hplaced' hfirst'
    refine ⟨new ++ [i], by simp, ?_, fun _ => by simp, ?_, hdone⟩
    · refine (List.perm_cons_erase hmem).trans ((hperm.cons i).trans ?_)
      rw [List.append_assoc]
      exact List.perm_middle.symm
    · intro x hx
      rcases List.mem_append.1 hx with hx | hx
      · exact (habove x hx).tail hp
      · rw [List.mem_singleton.1 hx]
  | case3 unplaced chain i hnot hmem hnone =>
    cases h
    refine ⟨[i], rfl, List.perm_cons_erase hmem, fun _ => by simp, fun x hx => ?_, ?_, hfirst⟩
    · rw [List.mem_singleton.1 hx]
    · intro p hp
      rw [IsParentIndex, hnone] at hp
      cases hp
  | case4 unplaced chain i hnot hmem =>
    cases h
    -- what is neither to be placed nor in the chain was placed by an earlier walk
    refine ⟨[], rfl, .refl _, fun h => absurd h hmem, nofun, hfirst.mono fun p hp => ?_⟩
    rcases List.mem_cons.1 hp with rfl | hp
    · exact hplaced p hi hmem (by simpa using hnot)
    · exact hp

/-- A walk fails only where the chain of parents comes back to one of its own. -/
theorem walk_error {unplaced chain : List Nat} {i : Nat} {e : ResolutionError}
    (h : walk inputs unplaced chain i = .error e)
    (hchain : (i :: chain).IsChain (IsParentIndex inputs)) (hnodup : chain.Nodup) :
    ∃ path, IsCircuit (IsParentIndex inputs) path ∧
      e = .circularParent (path.map (nameAt inputs)) := by
  fun_induction walk inputs unplaced chain i with
  | case1 unplaced chain i hcycle =>
    cases h
    exact ⟨_, isCircuit_of_isChain hchain hnodup (by simpa using hcycle), rfl⟩
  | case2 unplaced chain i hnot hmem p hp ih =>
    have hi : i ∉ chain := by simpa using hnot
    exact ih h (List.isChain_cons_cons.2 ⟨hp, hchain⟩) (List.nodup_cons.2 ⟨hi, hnodup⟩)
  | case3 => cases h
  | case4 => cases h

/-! ## Placing all inputs -/

/-- Every input still to be placed is placed, each after its parent, and before one declared earlier
only as the ancestor of such. -/
theorem placeAll_ok {unplaced starts placed order : List Nat}
    (h : placeAll inputs unplaced starts = .ok order) (hstarts : ∀ i ∈ starts, i < inputs.length)
    (hsorted : starts.Pairwise (· < ·)) (hnodup : unplaced.Nodup)
    (hunplaced : ∀ i ∈ unplaced, i ∈ starts)
    (hplaced : ∀ p, p < inputs.length → p ∉ unplaced → p ∈ placed) :
    order.Perm unplaced ∧ ParentsFirst (IsParentIndex inputs) placed order ∧
      order.Pairwise (IsDrawn (IsParentIndex inputs)) := by
  induction starts generalizing unplaced placed order with
  | nil =>
    obtain rfl : unplaced = [] := List.eq_nil_iff_forall_not_mem.2 fun i hi =>
      List.not_mem_nil (hunplaced i hi)
    rw [placeAll] at h
    cases h
    exact ⟨.refl _, trivial, .nil⟩
  | cons start starts ih =>
    have hrest : ∀ i ∈ starts, i < inputs.length := fun i hi =>
      hstarts i (List.mem_cons_of_mem start hi)
    obtain ⟨hlater, hsorted'⟩ := List.pairwise_cons.1 hsorted
    rw [placeAll] at h
    by_cases hmem : start ∈ unplaced
    · rw [if_pos (by simpa using hmem)] at h
      obtain ⟨⟨new, rest⟩, hwalk, h⟩ := bind_eq_ok_iff.1 h
      obtain ⟨order', horder', h⟩ := bind_eq_ok_iff.1 h
      cases h
      -- the walk begins with the empty chain
      have hnone : ParentsFirst (IsParentIndex inputs) (start :: placed) [] := trivial
      obtain ⟨new, rfl, hperm, hnew, habove, hfirst⟩ :=
        walk_ok hwalk (hstarts start List.mem_cons_self) (fun p hp hun _ => hplaced p hp hun) hnone
      rw [List.append_nil] at hfirst ⊢
      have hparts : (new ++ rest).Nodup := hperm.nodup_iff.1 hnodup
      obtain ⟨-, hnodup', hdisjoint⟩ := List.nodup_append.1 hparts
      -- the start was placed by the walk, so that what is left is among the other starts
      have hunplaced' : ∀ i ∈ rest, i ∈ starts := by
        intro i hi
        have := hunplaced i (hperm.mem_iff.2 (List.mem_append_right new hi))
        rcases List.mem_cons.1 this with rfl | h
        · exact absurd rfl (hdisjoint i (hnew hmem) i hi)
        · exact h
      have hplaced' : ∀ p, p < inputs.length → p ∉ rest → p ∈ new ++ placed := by
        intro p hp hp'
        by_cases hpu : p ∈ unplaced
        · rcases List.mem_append.1 (hperm.mem_iff.1 hpu) with h | h
          · exact List.mem_append_left _ h
          · exact absurd h hp'
        · exact List.mem_append_right _ (hplaced p hp hpu)
      obtain ⟨hperm', hfirst', hdrawn'⟩ := ih horder' hrest hsorted' hnodup' hunplaced' hplaced'
      refine ⟨(hperm'.append_left new).trans hperm.symm,
        hfirst.append hfirst' fun p hp => (List.mem_append.1 hp).symm, ?_⟩
      -- what the walk places is drawn by its start, and all that is left comes after the start
      have hdrawn : ∀ j ∈ new, ∀ i, start ≤ i → IsDrawn (IsParentIndex inputs) j i := by
        intro j hj i hi hlt
        rcases Relation.reflTransGen_iff_eq_or_transGen.1 (habove j hj) with rfl | hj
        · omega
        · exact ⟨start, hi, hj⟩
      have hstart : ∀ i ∈ unplaced, start ≤ i := by
        intro i hi
        rcases List.mem_cons.1 (hunplaced i hi) with rfl | hi
        · exact Nat.le_refl i
        · exact Nat.le_of_lt (hlater i hi)
      rw [List.pairwise_append]
      refine ⟨?_, hdrawn', fun j hj i hi => ?_⟩
      · exact List.pairwise_of_forall_mem_list fun j hj i hi =>
          hdrawn j hj i (hstart i (hperm.mem_iff.2 (List.mem_append_left _ hi)))
      · exact hdrawn j hj i
          (hstart i (hperm.mem_iff.2 (List.mem_append_right _ (hperm'.mem_iff.1 hi))))
    · rw [if_neg (by simpa using hmem)] at h
      refine ih h hrest hsorted' hnodup (fun i hi => ?_) hplaced
      rcases List.mem_cons.1 (hunplaced i hi) with rfl | h
      · exact absurd hi hmem
      · exact h

/-- No order is found only where the parents of some input form a circuit. -/
theorem placeAll_error {unplaced starts : List Nat} {e : ResolutionError}
    (h : placeAll inputs unplaced starts = .error e) :
    ∃ path, IsCircuit (IsParentIndex inputs) path ∧
      e = .circularParent (path.map (nameAt inputs)) := by
  induction starts generalizing unplaced with
  | nil =>
    rw [placeAll] at h
    cases h
  | cons start starts ih =>
    rw [placeAll] at h
    split at h
    · rcases bind_eq_error_iff.1 h with hwalk | ⟨⟨new, rest⟩, -, h⟩
      · exact walk_error hwalk (List.isChain_singleton start) List.nodup_nil
      · rcases bind_eq_error_iff.1 h with hrest | ⟨order, -, h⟩
        · exact ih hrest
        · cases h
    · exact ih h

/-! ## The order -/

theorem missingParent?_eq_none (h : ∀ i ∈ inputs, ∀ p, i.parent = some p →
    (indexOf? inputs p).isSome = true) : missingParent? inputs = none := by
  unfold missingParent?
  rw [List.findSome?_eq_none_iff]
  intro i hi
  cases hp : i.parent with
  | none => rfl
  | some p =>
    have hsome := h i hi p hp
    simp [Option.isNone_iff_eq_none, Option.isSome_iff_ne_none.1 hsome]

theorem placeAll_range_ok {order : List Nat}
    (h : placeAll inputs (List.range inputs.length) (List.range inputs.length) = .ok order) :
    order.Perm (List.range inputs.length) ∧ ParentsFirst (IsParentIndex inputs) [] order ∧
      order.Pairwise (IsDrawn (IsParentIndex inputs)) :=
  placeAll_ok h (fun _ hi => List.mem_range.1 hi) List.pairwise_lt_range List.nodup_range
    (fun _ hi => hi) fun _ hp hnot => absurd (List.mem_range.2 hp) hnot

/-- An order is found that lists every input once, each after its parent. -/
theorem resolutionOrder_ok (hparents : ∀ i ∈ inputs, ∀ p, i.parent = some p →
      (indexOf? inputs p).isSome = true)
    (hacyclic : ∀ i, ¬ Relation.TransGen (IsParentIndex inputs) i i) :
    ∃ order, resolutionOrder inputs = .ok order ∧ order.Perm (List.range inputs.length) ∧
      ParentsFirst (IsParentIndex inputs) [] order := by
  unfold resolutionOrder
  rw [missingParent?_eq_none hparents]
  show ∃ order, placeAll inputs _ _ = .ok order ∧ _
  cases h : placeAll inputs (List.range inputs.length) (List.range inputs.length) with
  | error e =>
    obtain ⟨path, hpath, -⟩ := placeAll_error h
    obtain ⟨i, hi⟩ := hpath.exists_transGen
    exact absurd hi (hacyclic i)
  | ok order =>
    obtain ⟨hperm, hfirst, -⟩ := placeAll_range_ok h
    exact ⟨order, rfl, hperm, hfirst⟩

end Mooring.Resolution
