import Mooring.Proofs.Fallible
import Mooring.Proofs.Resolution.Order
import Mooring.Resolution.Basic

set_option autoImplicit false

/-!
# Where the errors of mounts come from

Rules of inputs and paths between carets never fail with an error of a mount, and neither does
resolving the inputs (`resolveInputs_sparesMounts`). So an error of a mount is one that giving a
mount its directory ended with (`sparesMounts_or_of_resolve_eq_error`).
-/

namespace Mooring

/-- An error that names a mount. -/
inductive ResolutionError.IsOfMount : ResolutionError → Prop
  | fault (mount : String) (fault : MountFault) : IsOfMount (.mount mount fault)
  | ambiguous (mount input : String) (selector : Option String) :
      IsOfMount (.ambiguousResource mount input selector)

namespace Resolution

/-- Whether a computation never fails with an error of a mount. -/
def SparesMounts {α : Type} (x : Except ResolutionError α) : Prop :=
  ∀ e, x = .error e → ¬ e.IsOfMount

namespace SparesMounts

variable {α β : Type} {x : Except ResolutionError α} {f : α → Except ResolutionError β}
  {e : ResolutionError}

theorem ok (a : α) : SparesMounts (.ok a) := nofun

theorem error (h : ¬ e.IsOfMount) : SparesMounts (.error e : Except ResolutionError α) := by
  rintro _ ⟨⟩
  exact h

theorem bind (hx : SparesMounts x) (hf : ∀ a, SparesMounts (f a)) : SparesMounts (x >>= f) := by
  intro e h
  rcases bind_eq_error_iff.1 h with h | ⟨a, -, h⟩
  · exact hx e h
  · exact hf a e h

theorem map (hx : SparesMounts x) (g : α → β) : SparesMounts (g <$> x) := by
  rw [← bind_pure_comp]
  exact hx.bind fun a => ok (g a)

theorem mapM {xs : List α} (hf : ∀ a, SparesMounts (f a)) : SparesMounts (xs.mapM f) := by
  intro e h
  obtain ⟨a, -, ha⟩ := exists_of_mapM_eq_error h
  exact hf a e ha

theorem optionMapM {o : Option α} (hf : ∀ a, SparesMounts (f a)) : SparesMounts (o.mapM f) := by
  cases o with
  | none => exact ok none
  | some a => exact (hf a).map some

theorem foldlM {g : β → α → Except ResolutionError β} {xs : List α} {b : β}
    (hg : ∀ b a, SparesMounts (g b a)) : SparesMounts (xs.foldlM g b) := by
  intro e h
  obtain ⟨b', a, -, ha⟩ := exists_of_foldlM_eq_error h
  exact hg b' a e ha

end SparesMounts

/-! ## Paths -/

theorem parse_path_sparesMounts [Regex.Compiler] (source : String) :
    SparesMounts (Path.parse source) := by
  unfold Path.parse
  cases Path.read source with
  | error cause => exact .error nofun
  | ok p => exact .ok p

theorem parse_filter_sparesMounts [Regex.Compiler] (source : String) :
    SparesMounts (Filter.parse source) := by
  unfold Filter.parse
  cases Filter.read source with
  | error cause => exact .error nofun
  | ok p => exact .ok p

theorem pathValue_sparesMounts [Regex.Compiler] (document : Json) (expression : String) :
    SparesMounts (Template.pathValue document expression) := by
  unfold Template.pathValue
  refine (parse_path_sparesMounts expression).bind fun p => ?_
  split
  · exact .ok _
  · exact .ok _
  · exact .error nofun

theorem expandText_sparesMounts [Regex.Compiler] (document : Json) (cs : List Char) :
    SparesMounts (Template.expandText document cs) := by
  fun_induction Template.expandText document cs with
  | case1 => exact .ok _
  | case2 => exact .ok _
  | case3 _ _ _ _ ih => exact ih.bind fun _ => .ok _
  | case4 _ _ _ _ _ _ ih =>
    exact (pathValue_sparesMounts _ _).bind fun _ => ih.bind fun _ => .ok _
  | case5 _ _ _ _ _ _ ih => exact ih.bind fun _ => .ok _
  | case6 _ _ _ ih => exact ih.bind fun _ => .ok _

theorem expand_sparesMounts [Regex.Compiler] (template : String) (document : Json) :
    SparesMounts (Template.expand template document) :=
  (expandText_sparesMounts document _).map String.ofList

theorem expandMap_sparesMounts [Regex.Compiler] (templates : OrderedMap String) (document : Json) :
    SparesMounts (Template.expandMap templates document) :=
  (SparesMounts.mapM fun _ => (expand_sparesMounts _ _).bind fun _ => .ok _).bind fun _ => .ok _

/-! ## Rules -/

variable {ctx : InputContext}

theorem readJson_sparesMounts (source : JsonSource) (text : String) :
    SparesMounts (ctx.readJson source text) := by
  unfold InputContext.readJson
  split
  · exact .ok _
  · exact .error nofun

theorem parentDocument_sparesMounts : SparesMounts ctx.parentDocument := by
  unfold InputContext.parentDocument
  split
  · exact .ok _
  · split
    · exact .ok _
    · exact (readJson_sparesMounts _ _).map some

theorem unlessOptional_sparesMounts (f : InputFault) : SparesMounts (ctx.unlessOptional f) := by
  unfold InputContext.unlessOptional
  split
  · exact .error nofun
  · exact .ok _

theorem candidates_sparesMounts [Regex.Compiler] (document : Json) (expression : String) :
    SparesMounts (candidates document expression) :=
  (parse_path_sparesMounts expression).bind fun _ => .ok _

theorem firstProperty_sparesMounts [Regex.Compiler] (document : Json) (expression : String) :
    SparesMounts (firstProperty document expression) :=
  (parse_path_sparesMounts expression).bind fun _ => .ok _

theorem stringRule_sparesMounts [Regex.Compiler] : SparesMounts (stringRule ctx) := by
  unfold stringRule
  split
  · exact .ok _
  · refine parentDocument_sparesMounts.bind fun d => ?_
    split
    · exact .ok _
    · exact (firstProperty_sparesMounts _ _).bind fun _ => .ok _

theorem booleanRule_sparesMounts : SparesMounts (booleanRule ctx) := by
  unfold booleanRule
  split
  · exact .ok _
  · split
    · exact .ok _
    · exact .ok _
    · exact unlessOptional_sparesMounts _

theorem numberRule_sparesMounts : SparesMounts (numberRule ctx) := by
  unfold numberRule
  split
  · exact .ok _
  · split
    · exact .ok _
    · exact unlessOptional_sparesMounts _

theorem fileRule_sparesMounts [Regex.Compiler] : SparesMounts (fileRule ctx) := by
  unfold fileRule
  split
  · exact .error nofun
  · refine parentDocument_sparesMounts.bind fun d => ?_
    split
    · exact .ok _
    · exact (candidates_sparesMounts _ _).bind fun _ => .ok _

theorem resourceRule_sparesMounts [Regex.Compiler] : SparesMounts (resourceRule ctx) := by
  unfold resourceRule
  split
  · exact .ok _
  · refine parentDocument_sparesMounts.bind fun d => ?_
    split
    · exact .ok _
    · exact (candidates_sparesMounts _ _).bind fun _ => .ok _

theorem configRule_sparesMounts [Regex.Compiler] : SparesMounts (configRule ctx) := by
  unfold configRule
  refine parentDocument_sparesMounts.bind fun d => ?_
  split
  · exact firstProperty_sparesMounts _ _
  · exact .ok _

theorem siteObject_sparesMounts (type : InputType) (raw : String) :
    SparesMounts (siteObject ctx type raw) := by
  unfold siteObject
  dsimp only
  split
  · exact (readJson_sparesMounts _ _).map some
  · refine (readJson_sparesMounts _ _).bind fun d => ?_
    split <;> exact .ok _
  · split
    · exact .ok _
    · exact .error nofun
    · exact .error nofun

theorem freeObjectRule_sparesMounts (type : InputType) :
    SparesMounts (freeObjectRule type ctx) := by
  unfold freeObjectRule
  split
  · exact .ok _
  · refine (siteObject_sparesMounts _ _).bind fun object => ?_
    split
    · exact .ok _
    · split
      · split
        · exact .ok _
        · exact .error nofun
      · exact .ok _

theorem nestedObjectRule_sparesMounts [Regex.Compiler] (type : InputType) :
    SparesMounts (nestedObjectRule type ctx) := by
  unfold nestedObjectRule
  refine parentDocument_sparesMounts.bind fun d => ?_
  split
  · exact .ok _
  · split
    · exact .error nofun
    · refine (candidates_sparesMounts _ _).bind fun found => ?_
      dsimp only
      split
      · split
        · exact .error nofun
        · exact .ok _
      · exact .ok _

theorem siteObjectRule_sparesMounts [Regex.Compiler] (type : InputType) :
    SparesMounts (siteObjectRule type ctx) := by
  unfold siteObjectRule
  split
  · exact freeObjectRule_sparesMounts type
  · exact nestedObjectRule_sparesMounts type

/-- No rule fails with an error of a mount. -/
theorem standard_sparesMounts [Regex.Compiler] {type : InputType} {rule : InputRule}
    (h : InputRules.standard type = some rule) (ctx : InputContext) : SparesMounts (rule ctx) := by
  cases type <;> cases h
  case string => exact stringRule_sparesMounts
  case boolean => exact booleanRule_sparesMounts
  case number => exact numberRule_sparesMounts
  case file => exact fileRule_sparesMounts
  case resource => exact resourceRule_sparesMounts
  case config => exact configRule_sparesMounts
  all_goals exact siteObjectRule_sparesMounts _

/-! ## Inputs and commands -/

theorem resolutionOrder_sparesMounts (inputs : List Command.Input) :
    SparesMounts (resolutionOrder inputs) := by
  intro e h
  unfold resolutionOrder at h
  split at h
  · next missing hmissing =>
    cases h
    obtain ⟨i, -, hi⟩ := List.exists_of_findSome?_eq_some hmissing
    split at hi
    · split at hi
      · cases hi
        exact nofun
      · cases hi
    · cases hi
  · obtain ⟨path, -, rfl⟩ := placeAll_error h
    exact nofun

section Standard

variable [Regex.Compiler] {scope : Scope} (hrules : scope.rules = .standard) {c : Command}
include hrules

theorem resolveInput_sparesMounts (document : Json) (resolved : OrderedMap Resolved.Input)
    (i : Command.Input) : SparesMounts (resolveInput scope document resolved i) := by
  unfold resolveInput
  refine (SparesMounts.optionMapM fun _ => expand_sparesMounts _ _).bind fun value => ?_
  refine (SparesMounts.optionMapM fun _ =>
    (expand_sparesMounts _ _).bind fun _ => parse_filter_sparesMounts _).bind fun matcher => ?_
  rw [hrules]
  split
  · exact .error nofun
  · next rule hrule => exact standard_sparesMounts hrule _

theorem addInput_sparesMounts (document : Json) (resolved : OrderedMap Resolved.Input)
    (i : Command.Input) : SparesMounts (addInput scope document resolved i) := by
  unfold addInput
  refine (resolveInput_sparesMounts hrules _ _ _).bind fun value => ?_
  split
  · exact .error nofun
  · exact .ok _

/-- Resolving inputs never fails with an error of a mount. -/
theorem resolveInputs_sparesMounts (c : Command) : SparesMounts (resolveInputs scope c) := by
  unfold resolveInputs
  refine (resolutionOrder_sparesMounts _).bind fun order => ?_
  exact (SparesMounts.foldlM fun _ _ => addInput_sparesMounts hrules _ _ _).bind fun _ => .ok _

/-- An error of a command is none of a mount, or the one that a mount ended with. -/
theorem sparesMounts_or_of_resolve_eq_error {e : ResolutionError} (h : resolve scope c = .error e) :
    ¬ e.IsOfMount ∨ ∃ inputs, resolveInputs scope c = .ok inputs ∧ ∃ m ∈ c.mounts,
      ∃ values, resolveMount values inputs m = .error e := by
  rcases bind_eq_error_iff.1 h with h | ⟨inputs, hinputs, h⟩
  · exact .inl (resolveInputs_sparesMounts hrules c e h)
  rcases bind_eq_error_iff.1 h with h | ⟨commandLine, -, h⟩
  · exact .inl (expand_sparesMounts _ _ e h)
  rcases bind_eq_error_iff.1 h with h | ⟨environment, -, h⟩
  · exact .inl (expandMap_sparesMounts _ _ e h)
  rcases bind_eq_error_iff.1 h with h | ⟨ports, -, h⟩
  · exact .inl (expandMap_sparesMounts _ _ e h)
  rcases bind_eq_error_iff.1 h with h | ⟨workingDirectory, -, h⟩
  · exact .inl (SparesMounts.optionMapM (fun _ => expand_sparesMounts _ _) e h)
  rcases bind_eq_error_iff.1 h with h | ⟨mounts, -, h⟩
  · obtain ⟨m, hm, herror⟩ := exists_of_mapM_eq_error h
    exact .inr ⟨inputs, hinputs, m, hm, _, herror⟩
  · cases h

end Standard

end Resolution

end Mooring
