import Mooring.Proofs.Command.Faults
import Mooring.Proofs.Resolution.Errors
import Mooring.Proofs.Resolution.Outcome
import Mooring.Proofs.Resolution.Permutation

set_option autoImplicit false

/-!
# What a checked command resolves to

The check of a command looks at its declarations only, and resolving looks inputs up by name. For a
command that passed, the names of sources are found (`exists_get?_of_source`), so that no mount
fails for want of one, and what it resolves to has the mounts, the inputs and the outputs that it
declares (`resolve_of_check`). That parents are declared and meet in no cycle is not part of the
check; a command whose inputs resolve has them so (`isOrderly_of_resolveInputs`).
-/

namespace Mooring

/-- An error that says that a mount has no source input, or one that is not declared. -/
inductive ResolutionError.IsOfSource : ResolutionError → Prop
  | noSource (mount : String) : IsOfSource (.mount mount .noSource)
  | undeclaredSource (mount source : String) :
      IsOfSource (.mount mount (.undeclaredSource source))

theorem ResolutionError.IsOfSource.isOfMount {e : ResolutionError} (h : e.IsOfSource) :
    e.IsOfMount := by
  cases h <;> exact .fault _ _

namespace Resolution

/-- Whether a resolved mount is a declared one, with a directory just if it has a source. -/
structure FitsMount (m : Command.Mount) (r : Resolved.Mount) : Prop where
  name : r.name = m.name
  writable : r.writable = m.writable
  sourceInput : r.sourceInput = m.sourceInput
  hostPath : r.hostPath.isSome = m.sourceInput.isSome

/-- Whether a resolved input is a declared one, with a value if that is required. -/
structure FitsInput (i : Command.Input) (r : Resolved.Input) : Prop where
  name : r.name = i.name
  type : r.type = i.type
  parent : r.parent = i.parent
  sensitive : r.sensitive = i.sensitive
  value : i.required = true → r.value.isSome = true

/-- Whether a resolved command has the mounts and the inputs that are declared, one for each and in
their order, and a mount for each output. -/
structure Fits (c : Command) (r : Resolved) : Prop where
  mounts : List.Forall₂ FitsMount c.mounts r.mounts
  mountNames : (r.mounts.map Resolved.Mount.name).Nodup
  outputs : ∀ o ∈ r.outputs, ∃ m ∈ r.mounts, m.name = o.mount
  inputs : List.Forall₂ FitsInput c.inputs r.inputs

variable {scope : Scope} {c : Command} {i p : Command.Input} {m : Command.Mount}
  {values : OrderedMap String} {inputs : OrderedMap Resolved.Input} {r : Resolved}

/-! ## Parents of inputs that resolve -/

/-- A chain of parents is one of places. -/
theorem exists_transGen_isParentIndex {k : Nat} (hi : c.inputs[k]? = some i)
    (h : Relation.TransGen c.IsParent p i) :
    ∃ q, Relation.TransGen (IsParentIndex c.inputs) q k ∧ c.inputs[q]? = some p := by
  induction h generalizing k with
  | single hstep =>
    obtain ⟨q, hq, hp⟩ := exists_isParentIndex hi hstep
    exact ⟨q, .single hq, hp⟩
  | tail _ hstep ih =>
    obtain ⟨q, hq, hj⟩ := exists_isParentIndex hi hstep
    obtain ⟨q', hchain, hp⟩ := ih hj
    exact ⟨q', hchain.tail hq, hp⟩

/-- A command whose inputs resolve has declared parents and no cycle of them. -/
theorem isOrderly_of_resolveInputs [Regex.Compiler]
    (hnames : (c.inputs.map Command.Input.name).Nodup) (h : resolveInputs scope c = .ok inputs) :
    c.IsOrderly := by
  obtain ⟨order, horder, -⟩ := bind_eq_ok_iff.1 h
  unfold resolutionOrder at horder
  split at horder
  · cases horder
  · next hmissing =>
    refine ⟨hnames, allDeclared_of_missingParent? hmissing, fun i hi hloop => ?_⟩
    obtain ⟨k, hk⟩ := List.getElem?_of_mem hi
    obtain ⟨q, hchain, hq⟩ := exists_transGen_isParentIndex hk hloop
    -- the chain ends at the place where it starts, since the names differ
    have hlt : q < c.inputs.length := (List.getElem?_eq_some_iff.1 hq).1
    obtain rfl : q = k := (List.getElem?_inj hlt (.of_map _ hnames)).1 (hq.trans hk.symm)
    rw [← isParentAt_eq hnames] at hchain
    exact (isOrder_of_placeAll hnames horder).acyclic q hchain

/-! ## Mounts -/

theorem directoryOf_not_isOfSource {entry : ResourceEntry} {e : ResolutionError}
    (h : directoryOf m entry = .error e) : ¬ e.IsOfSource := by
  unfold directoryOf at h
  split at h
  · cases h
  · cases h
    exact nofun

theorem chooseResource_not_isOfSource {source : String} {type : InputType}
    {entries : List ResourceEntry} {e : ResolutionError}
    (h : chooseResource m source type entries = .error e) : ¬ e.IsOfSource := by
  unfold chooseResource at h
  split at h
  · cases h
    exact nofun
  · cases h
  · split at h
    · cases h
    · cases h
      exact nofun

theorem directoryIn_not_isOfSource {source value : String} {type : InputType}
    {e : ResolutionError} (h : directoryIn m source type value = .error e) : ¬ e.IsOfSource := by
  unfold directoryIn at h
  split at h
  · cases h
  · split at h
    · exact directoryOf_not_isOfSource h
    · cases h
      exact nofun
  · split at h
    · split at h
      · rcases bind_eq_error_iff.1 h with h | ⟨entry, -, h⟩
        · exact chooseResource_not_isOfSource h
        · exact directoryOf_not_isOfSource h
      · cases h
        exact nofun
    · cases h
      exact nofun

/-- The directory of a mount with a source, and none otherwise. -/
def sourcePath? (inputs : OrderedMap Resolved.Input) (m : Command.Mount) :
    Except ResolutionError (Option String) :=
  if m.sourceInput.isSome then some <$> hostPath m inputs else .ok none

theorem resolveMount_eq (values : OrderedMap String) (inputs : OrderedMap Resolved.Input)
    (m : Command.Mount) :
    resolveMount values inputs m = (sourcePath? inputs m).map fun host =>
      { name := m.name, containerPath := filled values m.path, writable := m.writable,
        hostPath := host, sourceInput := m.sourceInput } := by
  unfold resolveMount sourcePath?
  split
  · cases hostPath m inputs <;> rfl
  · rfl

/-- A mount whose source is among the inputs does not fail for want of one. -/
theorem resolveMount_not_isOfSource {e : ResolutionError}
    (hsource : ∀ s, m.sourceInput = some s → ∃ input, inputs.get? s = some input)
    (h : resolveMount values inputs m = .error e) : ¬ e.IsOfSource := by
  rw [resolveMount_eq, map_eq_error_iff, sourcePath?] at h
  split at h
  · next hsome =>
    obtain ⟨s, hs⟩ := Option.isSome_iff_exists.1 hsome
    obtain ⟨input, hinput⟩ := hsource s hs
    have hpath : hostPath m inputs = .error e := map_eq_error_iff.1 h
    rw [hostPath, hs] at hpath
    dsimp only at hpath
    rw [hinput] at hpath
    dsimp only at hpath
    split at hpath
    · cases hpath
      exact nofun
    · exact directoryIn_not_isOfSource hpath
  · cases h

theorem fitsMount_of_resolveMount {r : Resolved.Mount}
    (h : resolveMount values inputs m = .ok r) : FitsMount m r := by
  rw [resolveMount_eq, map_eq_ok_iff] at h
  obtain ⟨host, hhost, rfl⟩ := h
  refine ⟨rfl, rfl, rfl, ?_⟩
  rw [sourcePath?] at hhost
  split at hhost
  · next hsome =>
    obtain ⟨path, -, rfl⟩ := map_eq_ok_iff.1 hhost
    exact hsome.symm
  · next hnone =>
    cases hhost
    exact (Bool.eq_false_iff.2 hnone).symm

/-! ## Commands -/

/-- What a resolved command is made of. -/
theorem exists_of_resolve_eq_ok [Regex.Compiler] (h : resolve scope c = .ok r) :
    ∃ inputs values, resolveInputs scope c = .ok inputs ∧
      List.Forall₂ (fun m r => resolveMount values inputs m = .ok r) c.mounts r.mounts ∧
      r.inputs = inputs.entries.map Prod.snd ∧ r.outputs = c.outputs.map (resolveOutput values) := by
  obtain ⟨inputs, hinputs, h⟩ := bind_eq_ok_iff.1 h
  obtain ⟨commandLine, -, h⟩ := bind_eq_ok_iff.1 h
  obtain ⟨environment, -, h⟩ := bind_eq_ok_iff.1 h
  obtain ⟨ports, -, h⟩ := bind_eq_ok_iff.1 h
  obtain ⟨workingDirectory, -, h⟩ := bind_eq_ok_iff.1 h
  obtain ⟨mounts, hmounts, h⟩ := bind_eq_ok_iff.1 h
  cases h
  exact ⟨inputs, _, hinputs, mapM_eq_ok_iff.1 hmounts, rfl, rfl⟩

section Sound

variable [Regex.Compiler] (hc : c.IsSound) (hinputs : resolveInputs scope c = .ok inputs)
include hc hinputs

/-- Every declared source is found among the inputs. -/
theorem exists_get?_of_source (hm : m ∈ c.mounts) {s : String} (hs : m.sourceInput = some s) :
    ∃ input, inputs.get? s = some input := by
  obtain ⟨i, hi, rfl⟩ := hc.sources m hm s hs
  have horderly := isOrderly_of_resolveInputs hc.inputNames hinputs
  have hentries := (resolveInputs_ok horderly horderly.wellFounded).2 inputs hinputs
  obtain ⟨v, -, hlookup⟩ := lookup_of_forall₂ hentries hc.inputNames hi
  exact ⟨_, hlookup⟩

/-- The inputs are the declared ones, and those that are required have a value. -/
theorem forall₂_fitsInput :
    List.Forall₂ FitsInput c.inputs (inputs.entries.map Prod.snd) := by
  have horderly := isOrderly_of_resolveInputs hc.inputNames hinputs
  have hresolves := (resolveInputs_ok horderly horderly.wellFounded).1.1 ⟨inputs, hinputs⟩
  have hentries := (resolveInputs_ok horderly horderly.wellFounded).2 inputs hinputs
  rw [List.forall₂_map_right_iff]
  have hboth := (List.forall₂_and_left _ _).2 ⟨hresolves, hentries⟩
  refine hboth.imp ?_
  rintro i entry ⟨⟨v, hv, hrequired⟩, v', hv', rfl⟩
  obtain rfl := Except.ok.inj (hv'.symm.trans hv)
  exact ⟨rfl, rfl, rfl, rfl, hrequired⟩

end Sound

/-- A command that passes its check never fails to resolve because a mount has no source input or
one that is not declared. What it resolves to has the mounts and inputs that are declared, each
mount with a directory just if it has a source and each required input with a value, and a mount for
each output. -/
theorem resolve_of_check [Regex.Compiler] (h : c.check = .ok ()) (values : String → Option String)
    (site : SiteLookup) :
    (∀ e, resolve { rules := .standard, values, site } c = .error e → ¬ e.IsOfSource) ∧
      ∀ r, resolve { rules := .standard, values, site } c = .ok r → Fits c r := by
  have hc := Command.check_eq_ok_iff_isSound.1 h
  constructor
  · intro e he hsource
    rcases sparesMounts_or_of_resolve_eq_error rfl he with
      hspares | ⟨inputs, hinputs, m, hm, values, hmount⟩
    · exact hspares hsource.isOfMount
    · have hfound := fun s => exists_get?_of_source (s := s) hc hinputs hm
      exact resolveMount_not_isOfSource hfound hmount hsource
  · intro r hr
    obtain ⟨inputs, values, hinputs, hmounts, hinputs', houtputs⟩ := exists_of_resolve_eq_ok hr
    have hfits : List.Forall₂ FitsMount c.mounts r.mounts :=
      hmounts.imp fun _ _ => fitsMount_of_resolveMount
    have hnames : r.mounts.map Resolved.Mount.name = c.mounts.map Command.Mount.name := by
      rw [← List.forall₂_eq_eq_eq, List.forall₂_map_left_iff, List.forall₂_map_right_iff]
      exact hfits.flip.imp fun _ _ hm => hm.name
    refine ⟨hfits, hnames ▸ hc.mountNames, ?_, hinputs' ▸ forall₂_fitsInput hc hinputs⟩
    rw [houtputs, List.forall_mem_map]
    intro o ho
    -- the mount of the output is declared, and so it is among the resolved ones
    obtain ⟨m, hm, hname⟩ := hc.outputs o ho
    have hmem : o.mount ∈ r.mounts.map Resolved.Mount.name := by
      rw [hnames, ← hname]
      exact List.mem_map_of_mem hm
    exact List.mem_map.1 hmem

/-! ## A directory and a place for a result -/

/-- A command with a mount for a resource and one for its output. -/
def archiving : Command where
  image := "busybox"
  inputs := [{ name := "files", type := .resource, required := true }, { name := "label" }]
  mounts := [{ name := "in", path := "/in", sourceInput := some "files" },
    { name := "out", path := "/out", writable := true }]
  outputs := [{ name := "archive", mount := "out" }]

theorem resolutionOrder_archiving : resolutionOrder archiving.inputs = .ok [0, 1] := by
  cbv

/-- The text of a resource in a directory. -/
def archivedFiles : String :=
  "\x7b\"directory\": \"/data\"\x7d"

/-- The resource stands for its text, and the other input has no value. -/
theorem resolveInputs_archiving :
    resolveInputs { values := (OrderedMap.ofPairs [("files", archivedFiles)]).get? } archiving =
      .ok (.ofPairs [("files", { name := "files", type := .resource, value := archivedFiles }),
        ("label", { name := "label", type := .string, value := none })]) := by
  let scope : Scope := { values := (OrderedMap.ofPairs [("files", archivedFiles)]).get? }
  let files : Command.Input := { name := "files", type := .resource, required := true }
  have hfiles : resolveInput scope archiving.toJson .empty files = .ok (some archivedFiles) := by
    -- nothing is looked up in the command, and the rule of resources takes the text as it is
    have hcaret : '^' ∉ archivedFiles.toList := by decide
    have htext := Template.expand_of_notMem archiving.toJson hcaret
    show (some <$> Template.expand archivedFiles archiving.toJson) >>= _ = _
    rw [htext]
    rfl
  have hfirst : addInput scope archiving.toJson .empty files = .ok (.ofPairs
      [("files", { name := "files", type := .resource, value := archivedFiles })]) := by
    unfold addInput
    rw [hfiles]
    rfl
  unfold resolveInputs
  rw [resolutionOrder_archiving]
  show (addInput scope archiving.toJson .empty files >>= _) >>= _ = _
  rw [hfirst]
  rfl

/-- The mount of the resource has its directory, and that of the output has none. -/
theorem hostPaths_archiving :
    (resolve { values := (OrderedMap.ofPairs [("files", archivedFiles)]).get? } archiving).map
      (fun r => r.mounts.map Resolved.Mount.hostPath) = .ok [some "/data", none] := by
  have hcaret : '^' ∉ "".toList := by decide
  have hline := Template.expand_of_notMem archiving.toJson hcaret
  unfold resolve
  rw [resolveInputs_archiving]
  show (Template.expand "" archiving.toJson >>= _).map _ = _
  rw [hline]
  rfl

theorem resolve_of_check_archiving :
    archiving.check = .ok () ∧
      (∀ values site e, resolve { values, site } archiving = .error e → ¬ e.IsOfSource) ∧
      ∃ r, resolve { values := (OrderedMap.ofPairs
            [("files", "\x7b\"directory\": \"/data\"\x7d")]).get? } archiving = .ok r ∧
        r.mounts.map Resolved.Mount.hostPath = [some "/data", none] ∧ Fits archiving r := by
  have hcheck : archiving.check = .ok () := by
    rw [Command.check_eq_ok_iff]
    decide
  obtain ⟨r, hr, hmounts⟩ := map_eq_ok_iff.1 hostPaths_archiving
  refine ⟨hcheck, fun values site => (resolve_of_check hcheck values site).1, r, hr, hmounts, ?_⟩
  exact (resolve_of_check hcheck _ _).2 r hr

end Resolution

end Mooring
