import Mooring.Resolution.Rules

set_option autoImplicit false

/-!
# Parents without a property

An input may declare a parent and no property of it, so that it resolves after the parent. A text, a
truth value and a number then have the same value, or the same error, whatever the parent
resolved to. So has a configuration value as long as the parent resolved to nothing or to a
document; a text that writes no document is an error, since the document is read before it is known
whether a property of it is wanted (`parentValue_matters`). So the parent does more than to
order the resolution (`not_parentValue_idle`).
-/

namespace Mooring.Resolution

/-- Whether the values of a type are given, and not picked from a parent or a site. -/
def IsGiven (type : InputType) : Prop :=
  type = .string ∨ type = .boolean ∨ type = .number ∨ type = .config

/-- Whether a value is null or writes a document. -/
def IsDocument (value : Option String) : Prop :=
  ∀ text, value = some text → (Json.read? text).isSome = true

namespace InputContext

variable {ctx : InputContext} {parent : Resolved.Input} {v : Option String}

/-- The same input after its parent resolved to another value. -/
def withParentValue (ctx : InputContext) (value : Option String) : InputContext :=
  { ctx with parent := ctx.parent.map fun p => { p with value } }

@[simp] theorem input_withParentValue : (ctx.withParentValue v).input = ctx.input :=
  rfl

@[simp] theorem value_withParentValue : (ctx.withParentValue v).value = ctx.value :=
  rfl

@[simp] theorem unlessOptional_withParentValue (f : InputFault) :
    (ctx.withParentValue v).unlessOptional f = ctx.unlessOptional f :=
  rfl

/-- The document of a parent is there, if it has a value, just if the value writes one. -/
theorem parentDocument_withParentValue (hparent : ctx.parent = some parent) :
    (IsDocument v → ∃ document, (ctx.withParentValue v).parentDocument = .ok document) ∧
      (¬ IsDocument v → (ctx.withParentValue v).parentDocument =
        .error (ctx.fault (.notJson (.parentValue parent.name)))) := by
  have hresolved : (ctx.withParentValue v).parent = some { parent with value := v } := by
    simp [withParentValue, hparent]
  unfold parentDocument
  rw [hresolved]
  cases v with
  | none =>
    constructor
    · intro _
      exact ⟨none, rfl⟩
    · intro hnot
      exact absurd nofun hnot
  | some text =>
    cases hread : Json.read? text with
    | none =>
      constructor
      · intro hdocument
        have hsome := hdocument text rfl
        simp [hread] at hsome
      · intro _
        simp only [readJson, hread]
        rfl
    | some document =>
      constructor
      · intro _
        refine ⟨some document, ?_⟩
        simp only [readJson, hread]
        rfl
      · intro hnot
        refine absurd (fun other hother => ?_) hnot
        cases hother
        simp [hread]

end InputContext

variable {ctx : InputContext} {parent : Resolved.Input} {v w : Option String}

/-- A configuration value without a property is as given, if the document of its parent can be
read. -/
theorem configRule_withParentValue [Regex.Compiler] (hparent : ctx.parent = some parent)
    (hproperty : ctx.input.parentProperty = none) :
    (IsDocument v → configRule (ctx.withParentValue v) = .ok ctx.value) ∧
      (¬ IsDocument v → configRule (ctx.withParentValue v) =
        .error (ctx.fault (.notJson (.parentValue parent.name)))) := by
  have hnone : (ctx.withParentValue v).input.parentProperty = none := hproperty
  obtain ⟨hread, hfault⟩ := InputContext.parentDocument_withParentValue (v := v) hparent
  constructor
  · intro hv
    obtain ⟨document, hdocument⟩ := hread hv
    simp only [configRule, hdocument, hnone]
    cases document <;> rfl
  · intro hv
    simp only [configRule, hfault hv]
    rfl

/-- The value of a parent without a property plays no part for a text, a truth value or a number. For
a configuration value it plays no part as long as it is null or writes a document, and is an error
otherwise. -/
theorem parentValue_matters [Regex.Compiler] {type : InputType} {rule : InputRule}
    (htype : IsGiven type) (hrule : InputRules.standard type = some rule)
    (hparent : ctx.parent = some parent) (hproperty : ctx.input.parentProperty = none) :
    (∀ v w, (type = .config → IsDocument v ∧ IsDocument w) →
        rule (ctx.withParentValue v) = rule (ctx.withParentValue w)) ∧
      (type = .config → ∀ v,
        (IsDocument v → rule (ctx.withParentValue v) = .ok ctx.value) ∧
          (¬ IsDocument v → rule (ctx.withParentValue v) =
            .error (ctx.fault (.notJson (.parentValue parent.name))))) := by
  have hconfig : type = .config → rule = configRule := by
    rintro rfl
    cases hrule
    rfl
  constructor
  · intro v w hdocuments
    rcases htype with rfl | rfl | rfl | rfl
    · cases hrule
      simp [stringRule, hproperty]
    · cases hrule
      simp [booleanRule]
    · cases hrule
      simp [numberRule]
    · obtain ⟨hv, hw⟩ := hdocuments rfl
      rw [hconfig rfl, (configRule_withParentValue hparent hproperty).1 hv,
        (configRule_withParentValue hparent hproperty).1 hw]
  · intro htype v
    rw [hconfig htype]
    exact configRule_withParentValue hparent hproperty

/-- A setting that waits for a name. -/
def setting : InputContext where
  input := { name := "setting", type := .config, parent := some "name" }
  value := some "fast"
  parent := some { name := "name", type := .string, value := none }
  matcher := none
  site := .nothing

theorem setting_parent : setting.parent = some { name := "name", type := .string, value := none } :=
  rfl

theorem setting_property : setting.input.parentProperty = none :=
  rfl

theorem not_isDocument_word : ¬ IsDocument (some "ann") := by
  intro h
  have hread := h "ann" rfl
  revert hread
  decide +kernel

theorem parentValue_matters_setting :
    IsGiven .config ∧ InputRules.standard .config = some configRule ∧
      setting.parent = some { name := "name", type := .string, value := none } ∧
      setting.input.parentProperty = none ∧ IsDocument (some "\"ann\"") ∧ ¬ IsDocument (some "ann") ∧
      configRule (setting.withParentValue (some "\"ann\"")) = .ok (some "fast") ∧
      configRule (setting.withParentValue (some "ann")) =
        .error (.input "setting" (.notJson (.parentValue "name"))) := by
  have htype : IsGiven .config := .inr (.inr (.inr rfl))
  have hdocument : IsDocument (some "\"ann\"") := by
    rintro text ⟨⟩
    decide +kernel
  have hmatters := (parentValue_matters htype rfl setting_parent setting_property).2 rfl
  exact ⟨htype, rfl, setting_parent, setting_property, hdocument, not_isDocument_word,
    (hmatters _).1 hdocument, (hmatters _).2 not_isDocument_word⟩

/-- The value of a parent without a property is not always idle: a setting fails after a name that
writes no document. -/
theorem not_parentValue_idle :
    ¬ ∀ (type : InputType) (rule : InputRule) (ctx : InputContext) (v w : Option String),
      IsGiven type → InputRules.standard type = some rule → ctx.input.parent.isSome = true →
      ctx.input.parentProperty = none →
      rule (ctx.withParentValue v) = rule (ctx.withParentValue w) := by
  intro h
  have hsame := h .config configRule setting none (some "ann") (.inr (.inr (.inr rfl))) rfl rfl rfl
  have hconfig := fun v => configRule_withParentValue (v := v) setting_parent setting_property
  have hnull := (hconfig none).1 nofun
  have hword := (hconfig _).2 not_isDocument_word
  rw [hnull, hword] at hsame
  cases hsame

end Mooring.Resolution
