import Mooring.Proofs.Resolution.Inputs

set_option autoImplicit false

/-!
# Inputs in another order

Where no text of a command is looked up in the command itself, the order in which its inputs are
declared does not matter: the reference values stay what they are (`valueOf_permuted`).
-/

namespace Mooring

/-! ## Texts without carets -/

theorem Template.expandText_of_notMem [Regex.Compiler] (document : Json) {cs : List Char}
    (h : '^' ∉ cs) : expandText document cs = .ok cs := by
  induction cs with
  | nil => rw [expandText]; rfl
  | cons c rest ih =>
    rw [List.mem_cons, not_or] at h
    obtain ⟨hc, hrest⟩ := h
    rw [expandText, ih hrest]
    · rfl
    · rintro rfl
      exact hc rfl

theorem Template.expand_of_notMem [Regex.Compiler] (document : Json) {text : String}
    (h : '^' ∉ text.toList) : expand text document = .ok text := by
  unfold expand
  rw [expandText_of_notMem document h]
  simp [Except.map]

/-! ## The same command with its inputs in another order -/

namespace Command

variable {c : Command} {inputs : List Command.Input}

theorem IsOrderly.parent?_permuted (h : c.IsOrderly) (hperm : inputs.Perm c.inputs) :
    ({ c with inputs } : Command).parent? = c.parent? := by
  have hnames : (inputs.map Command.Input.name).Nodup :=
    (hperm.map Command.Input.name).nodup_iff.2 h.names
  funext i
  refine congrArg i.parent.bind (funext fun name => Option.ext fun p => ?_)
  rw [input?_eq_some_iff hnames, input?_eq_some_iff h.names]
  exact and_congr_left fun _ => hperm.mem_iff

theorem IsOrderly.permuted (h : c.IsOrderly) (hperm : inputs.Perm c.inputs) :
    ({ c with inputs } : Command).IsOrderly where
  names := (hperm.map Command.Input.name).nodup_iff.2 h.names
  parents i hi p hp := by
    obtain ⟨q, hq, hname⟩ := h.parents i (hperm.mem_iff.1 hi) p hp
    exact ⟨q, hperm.mem_iff.2 hq, hname⟩
  acyclic i hi := by
    unfold IsParent
    rw [h.parent?_permuted hperm]
    exact h.acyclic i (hperm.mem_iff.1 hi)

end Command

namespace Resolution

variable {scope : Scope} {c : Command} {inputs : List Command.Input} {i : Command.Input}

/-- Whether nothing is looked up in the command for the value of an input. -/
def IsPlain (scope : Scope) (i : Command.Input) : Prop :=
  ∀ text, scope.values i.name = some text ∨ i.defaultValue = some text ∨ i.matcher = some text →
    '^' ∉ text.toList

theorem mapM_congr {ε α β : Type} {o : Option α} {f g : α → Except ε β}
    (h : ∀ a, o = some a → f a = g a) : o.mapM f = o.mapM g := by
  cases o with
  | none => rfl
  | some a => exact congrArg (some <$> ·) (h a rfl)

theorem expand_of_notMem_eq [Regex.Compiler] {text : String} (h : '^' ∉ text.toList)
    (document other : Json) : Template.expand text document = Template.expand text other := by
  rw [Template.expand_of_notMem document h, Template.expand_of_notMem other h]

/-- Plain inputs do not see the command. -/
theorem derive_of_isPlain [Regex.Compiler] (hi : IsPlain scope i) (document other : Json)
    (parent : Option Resolved.Input) :
    derive scope document i parent = derive scope other i parent := by
  have hvalue : (scope.values i.name <|> i.defaultValue).mapM (Template.expand · document) =
      (scope.values i.name <|> i.defaultValue).mapM (Template.expand · other) := by
    refine mapM_congr fun text htext => expand_of_notMem_eq ?_ document other
    rcases (Option.orElse_eq_some ..).1 htext with hsupplied | ⟨-, hdefault⟩
    · exact hi text (.inl hsupplied)
    · exact hi text (.inr (.inl hdefault))
  have hmatcher : i.matcher.mapM (fun m => Template.expand m document >>= Filter.parse) =
      i.matcher.mapM fun m => Template.expand m other >>= Filter.parse := by
    apply mapM_congr
    intro text htext
    rw [expand_of_notMem_eq (hi text (.inr (.inr htext))) document other]
  unfold derive
  rw [hvalue]
  refine congrArg (_ >>= ·) (funext fun value => ?_)
  exact congrArg (· >>= _) hmatcher

/-- The reference values of plain inputs do not depend on the order of the declarations. -/
theorem valueOf_permuted [Regex.Compiler] (horderly : c.IsOrderly) (hperm : inputs.Perm c.inputs)
    (hplain : ∀ i ∈ c.inputs, IsPlain scope i) (h : WellFounded c.IsParent)
    (h' : WellFounded ({ c with inputs } : Command).IsParent) (hi : i ∈ c.inputs) :
    valueOf scope { c with inputs } h' i = valueOf scope c h i := by
  -- the induction is up the chain of parents
  induction i using h.induction with
  | _ i ih =>
    have hparent : ({ c with inputs } : Command).parent? i = c.parent? i :=
      congrFun (horderly.parent?_permuted hperm) i
    cases hp : c.parent? i with
    | none =>
      rw [valueOf_of_none hp, valueOf_of_none (hparent.trans hp),
        derive_of_isPlain (hplain i hi) _ c.toJson]
    | some p =>
      rw [valueOf_of_isParent hp, valueOf_of_isParent (hparent.trans hp),
        ih p hp (Command.mem_of_isParent hp)]
      refine congrArg (valueOf scope c h p >>= ·) (funext fun v => ?_)
      exact derive_of_isPlain (hplain i hi) _ _ _

/-- What is found in the result under any name. -/
theorem get?_of_resolveInputs [Regex.Compiler] (horderly : c.IsOrderly) (h : WellFounded c.IsParent)
    {m : OrderedMap Resolved.Input} (hm : resolveInputs scope c = .ok m) :
    (∀ i ∈ c.inputs, ∃ v, valueOf scope c h i = .ok v ∧
        m.get? i.name = some (asResolved i v)) ∧
      ∀ name, name ∉ c.inputs.map Command.Input.name → m.get? name = none := by
  have hall := (resolveInputs_ok horderly h).2 m hm
  constructor
  · intro i hi
    exact lookup_of_forall₂ hall horderly.names hi
  · intro name hname
    rw [← map_fst_of_forall₂ hall] at hname
    unfold OrderedMap.get?
    rw [List.lookup_eq_none_iff]
    intro entry hentry
    rw [bne_iff_ne]
    rintro rfl
    exact hname (List.mem_map_of_mem hentry)

/-- Resolving the inputs of an orderly command agrees with the reference: it ends well just if every
input has a reference value, or may go without, and then lists every input once, in the order of the
declarations, with that value. Where nothing is looked up in the command, inputs that are declared
in another order resolve as well, and to the same values. -/
theorem resolveInputs_eq_reference [Regex.Compiler] (scope : Scope) (horderly : c.IsOrderly) :
    ((∃ m, resolveInputs scope c = .ok m) ↔
        ∀ i ∈ c.inputs, Resolves scope c horderly.wellFounded i) ∧
      (∀ m, resolveInputs scope c = .ok m →
        List.Forall₂ (IsEntry scope c horderly.wellFounded) c.inputs m.entries) ∧
      ∀ inputs : List Command.Input, inputs.Perm c.inputs → (∀ i ∈ c.inputs, IsPlain scope i) →
        ∀ m, resolveInputs scope c = .ok m →
          ∃ m', resolveInputs scope { c with inputs } = .ok m' ∧
            ∀ name, m'.get? name = m.get? name := by
  have h := horderly.wellFounded
  refine ⟨(resolveInputs_ok horderly h).1, (resolveInputs_ok horderly h).2, ?_⟩
  intro inputs hperm hplain m hm
  have horderly' := horderly.permuted hperm
  have h' := horderly'.wellFounded
  have hsame := fun i hi => valueOf_permuted (i := i) horderly hperm hplain h h' hi
  -- every input resolves by itself, which does not depend on the order
  have hall := (resolveInputs_ok horderly h).1.1 ⟨m, hm⟩
  obtain ⟨m', hm'⟩ := (resolveInputs_ok horderly' h').1.2 fun i hi => by
    obtain ⟨v, hv, hrequired⟩ := hall i (hperm.mem_iff.1 hi)
    exact ⟨v, (hsame i (hperm.mem_iff.1 hi)).trans hv, hrequired⟩
  refine ⟨m', hm', fun name => ?_⟩
  obtain ⟨hvalues, hothers⟩ := get?_of_resolveInputs horderly h hm
  obtain ⟨hvalues', hothers'⟩ := get?_of_resolveInputs horderly' h' hm'
  by_cases hname : name ∈ c.inputs.map Command.Input.name
  · obtain ⟨i, hi, rfl⟩ := List.mem_map.1 hname
    obtain ⟨v, hv, hget⟩ := hvalues i hi
    -- both maps have the reference value of the input
    obtain ⟨v', hv', hget'⟩ := hvalues' i (hperm.mem_iff.2 hi)
    obtain rfl := Except.ok.inj ((hv'.symm.trans (hsame i hi)).trans hv)
    rw [hget, hget']
  · rw [hothers name hname]
    exact hothers' name fun h => hname ((hperm.map Command.Input.name).mem_iff.1 h)

/-! ## A child declared before its parent -/

/-- A command whose first input has the second for its parent. -/
def nested : Command where
  name := "nested"
  inputs := [{ name := "file", parent := some "session" }, { name := "session" }]

theorem nested_isOrderly : nested.IsOrderly where
  names := by decide
  parents := by decide
  acyclic := Command.acyclic_of_rank (fun i => if i.parent.isSome then 1 else 0) (by decide)

theorem resolveInputs_nested :
    nested.IsOrderly ∧
      ((∃ m, resolveInputs {} nested = .ok m) ↔
        ∀ i ∈ nested.inputs, Resolves {} nested nested_isOrderly.wellFounded i) ∧
      ∀ m, resolveInputs {} nested = .ok m →
        List.Forall₂ (IsEntry {} nested nested_isOrderly.wellFounded) nested.inputs m.entries :=
  have h := resolveInputs_eq_reference {} nested_isOrderly
  ⟨nested_isOrderly, h.1, h.2.1⟩

end Resolution

end Mooring
