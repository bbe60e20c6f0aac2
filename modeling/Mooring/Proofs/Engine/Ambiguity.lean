import Mathlib.Data.List.Forall2
import Mathlib.Data.List.Infix
import Mooring.Engine.Arguments

set_option autoImplicit false

/-!
# What the engine's arguments leave open

Mounts, environment variables and published ports reach the engine as texts in which a separator
stands between two values, and the values are put there as they are. Two different values can
therefore be written alike. `Text.append_separator_eq_iff` says when: the separator of one stands
inside a value of the other. From it, `Engine.launchArguments_eq_iff` says for two resolved commands
exactly when their arguments are the same, and `Engine.launchArguments_alike` that plain values, in
which no separator stands, can be read back. The access mode of a mount is not safe from this either
(`Engine.launchArguments_mistaken`).
-/

namespace Mooring

namespace Text

/-! ## Two values with a separator between them -/

/-- Texts that cannot overlap themselves, as their first character occurs once. -/
def IsSeparator (text : String) : Prop :=
  match text.toList with
  | [] => False
  | c :: cs => c ∉ cs

instance (text : String) : Decidable (IsSeparator text) := by
  unfold IsSeparator
  split <;> infer_instance

/-- Whether a text stands somewhere in another. -/
def Within (part whole : String) : Prop :=
  part.toList <:+: whole.toList

instance (part whole : String) : Decidable (Within part whole) :=
  inferInstanceAs (Decidable (_ <:+: _))

/-- Two pairs of values that are equal, or differ in which of two separators parts them. -/
inductive Alike (separator : String) : String × String → String × String → Prop
  | same (p : String × String) : Alike separator p p
  | sooner (a b c : String) :
      Alike separator (a, b ++ separator ++ c) (a ++ separator ++ b, c)
  | later (a b c : String) :
      Alike separator (a ++ separator ++ b, c) (a, b ++ separator ++ c)

section Lists

variable {α : Type} {s : α} {rest : List α}

/-- A separator at the start of a text is the separator that was looked for, or that one comes
after it. -/
theorem cons_append_eq_iff (hs : s ∉ rest) {b d e : List α} :
    s :: (rest ++ d) = e ++ s :: (rest ++ b) ↔
      (e = [] ∧ d = b) ∨ ∃ w, e = s :: (rest ++ w) ∧ d = w ++ s :: (rest ++ b) := by
  constructor
  · intro h
    cases e with
    | nil => exact .inl ⟨rfl, by simpa using h⟩
    | cons c cs =>
      rw [List.cons_append, List.cons_eq_cons] at h
      obtain ⟨rfl, h⟩ := h
      rcases List.append_eq_append_iff.1 h with ⟨w, rfl, rfl⟩ | ⟨w, rfl, h⟩
      · exact .inr ⟨w, rfl, rfl⟩
      · -- no second separator starts inside the first, which has its first character only once
        cases w with
        | nil => exact .inr ⟨[], by simp, by simpa using h.symm⟩
        | cons x xs =>
          rw [List.cons_append, List.cons_eq_cons] at h
          simp [h.1] at hs
  · rintro (⟨rfl, rfl⟩ | ⟨w, rfl, rfl⟩) <;> simp

theorem append_cons_append_eq_iff (hs : s ∉ rest) {a b c d : List α} :
    a ++ s :: (rest ++ b) = c ++ s :: (rest ++ d) ↔
      (a = c ∧ b = d) ∨ (∃ w, c = a ++ s :: (rest ++ w) ∧ b = w ++ s :: (rest ++ d)) ∨
        ∃ w, a = c ++ s :: (rest ++ w) ∧ d = w ++ s :: (rest ++ b) := by
  -- the longer of the two first values goes on with the separator of the other
  rw [List.append_eq_append_iff]
  simp only [cons_append_eq_iff hs]
  constructor
  · rintro (⟨e, rfl, ⟨rfl, rfl⟩ | ⟨w, rfl, rfl⟩⟩ | ⟨e, rfl, ⟨rfl, rfl⟩ | ⟨w, rfl, rfl⟩⟩)
    · simp
    · exact .inr (.inl ⟨w, rfl, rfl⟩)
    · simp
    · exact .inr (.inr ⟨w, rfl, rfl⟩)
  · rintro (⟨rfl, rfl⟩ | ⟨w, rfl, rfl⟩ | ⟨w, rfl, rfl⟩)
    · exact .inl ⟨[], by simp⟩
    · exact .inl ⟨_, rfl, .inr ⟨w, rfl, rfl⟩⟩
    · exact .inr ⟨_, rfl, .inr ⟨w, rfl, rfl⟩⟩

end Lists

/-- Two pairs of values are written alike exactly if they are equal, or the separator of one stands
inside a value of the other. -/
theorem append_separator_eq_iff {separator : String} (hsep : IsSeparator separator)
    (p q : String × String) :
    p.1 ++ separator ++ p.2 = q.1 ++ separator ++ q.2 ↔ Alike separator p q := by
  obtain ⟨a, b⟩ := p
  obtain ⟨c, d⟩ := q
  constructor
  · intro h
    cases hchars : separator.toList with
    | nil => simp [IsSeparator, hchars] at hsep
    | cons s rest =>
      have hs : s ∉ rest := by simpa [IsSeparator, hchars] using hsep
      have htexts := congrArg String.toList h
      simp only [String.toList_append, hchars, List.append_assoc, List.cons_append] at htexts
      rcases (append_cons_append_eq_iff hs).1 htexts with ⟨ha, hb⟩ | ⟨w, hc, hb⟩ | ⟨w, ha, hd⟩
      · obtain rfl := String.toList_inj.1 ha
        obtain rfl := String.toList_inj.1 hb
        exact .same _
      · obtain rfl : c = a ++ separator ++ String.ofList w := by
          simp [← String.toList_inj, hc, hchars]
        obtain rfl : b = String.ofList w ++ separator ++ d := by
          simp [← String.toList_inj, hb, hchars]
        exact .sooner _ _ _
      · obtain rfl : a = c ++ separator ++ String.ofList w := by
          simp [← String.toList_inj, ha, hchars]
        obtain rfl : d = String.ofList w ++ separator ++ b := by
          simp [← String.toList_inj, hd, hchars]
        exact .later _ _ _
  · rintro (_ | _ | _)
    · rfl
    all_goals simp only [String.append_assoc]

theorem within_append (separator a b : String) : Within separator (a ++ separator ++ b) :=
  ⟨a.toList, b.toList, by simp [String.toList_append]⟩

/-- Pairs that are written alike are equal if no separator stands in their first values. -/
theorem Alike.eq {separator : String} {p q : String × String} (h : Alike separator p q)
    (hp : ¬ Within separator p.1) (hq : ¬ Within separator q.1) : p = q := by
  cases h with
  | same => rfl
  | sooner a b => exact absurd (within_append separator a b) hq
  | later a b => exact absurd (within_append separator a b) hp

end Text

namespace Engine

/-! ## What the engine is told of a mount and of a port -/

/-- What the engine is told of a mount: the directory, where it appears and whether it may be
written. -/
@[ext] structure Binding where
  source : String
  containerPath : String
  writable : Bool
  deriving DecidableEq, Repr

/-- The mount as the engine is told of it, if it has a directory. -/
def binding? (m : Resolved.Mount) : Option Binding :=
  m.bindSource?.map fun source => ⟨source, m.containerPath, m.writable⟩

/-- The mounts that the engine is told of. -/
def bindings (r : Resolved) : List Binding :=
  r.mounts.filterMap binding?

/-- The ports that the engine is told of. -/
def published (r : Resolved) : List (String × String) :=
  r.ports.entries.filter fun p => !p.2.isEmpty

/-- The text of an environment variable for the engine. -/
def variableText (e : String × String) : String :=
  e.1 ++ "=" ++ e.2

/-- The text of a published port for the engine. -/
def portText (p : String × String) : String :=
  p.2 ++ ":" ++ p.1

/-- The container path with what follows it in the text of a mount. -/
def Binding.target (b : Binding) : String :=
  b.containerPath ++ if b.writable then "" else ",readonly"

/-- Two mounts that are written alike. -/
def Binding.Alike (b b' : Binding) : Prop :=
  Text.Alike ",target=" (b.source, b.target) (b'.source, b'.target)

/-- The text of a mount for the engine. -/
def Binding.text (b : Binding) : String :=
  "type=bind,source=" ++ (b.source ++ ",target=" ++ b.target)

theorem mountArgument?_eq (m : Resolved.Mount) :
    mountArgument? m = (binding? m).map Binding.text := by
  unfold mountArgument? binding?
  cases m.bindSource? with
  | none => rfl
  | some source =>
    change some _ = some ("type=bind,source=" ++ (source ++ ",target=" ++
      (m.containerPath ++ if m.writable then "" else ",readonly")))
    simp only [String.append_assoc]

theorem filterMap_mountArgument? (r : Resolved) :
    r.mounts.filterMap mountArgument? = (bindings r).map Binding.text := by
  rw [bindings, List.map_filterMap]
  exact congrArg (r.mounts.filterMap ·) (funext mountArgument?_eq)

theorem filterMap_portArgument? (r : Resolved) :
    r.ports.entries.filterMap portArgument? = (published r).map portText := by
  rw [published]
  induction r.ports.entries with
  | nil => rfl
  | cons p rest ih =>
    cases hport : p.2.isEmpty <;> simp [portArgument?, portText, hport, ih]

theorem variableText_eq_iff (e e' : String × String) :
    variableText e = variableText e' ↔ Text.Alike "=" e e' :=
  Text.append_separator_eq_iff (by decide) e e'

theorem portText_eq_iff (p p' : String × String) :
    portText p = portText p' ↔ Text.Alike ":" p.swap p'.swap :=
  Text.append_separator_eq_iff (by decide) p.swap p'.swap

theorem Binding.text_eq_iff (b b' : Binding) : b.text = b'.text ↔ b.Alike b' :=
  (String.append_right_inj _).trans (Text.append_separator_eq_iff (by decide) (b.source, b.target)
    (b'.source, b'.target))

/-- The end of a container path that may be written reads like the access mode of one that may
not. -/
theorem Binding.target_eq_iff (b b' : Binding) :
    b.target = b'.target ↔
      (b.containerPath = b'.containerPath ∧ b.writable = b'.writable) ∨
        (b.writable = true ∧ b'.writable = false ∧
          b.containerPath = b'.containerPath ++ ",readonly") ∨
        (b.writable = false ∧ b'.writable = true ∧
          b'.containerPath = b.containerPath ++ ",readonly") := by
  unfold target
  cases b.writable <;> cases b'.writable <;> simp [eq_comm]

/-! ## The arguments as pairs of a flag and a text -/

/-- The options of a flag. -/
def options (flag : String) (texts : List String) : List (String × String) :=
  texts.map fun text => (flag, text)

/-- The options that describe the limits of a container or of a service. -/
def limitOptions (service : Bool) (r : Resolved) : List (String × String) :=
  options (if service then "--reserve-memory" else "--memory-reservation")
      (r.reserveMemory.map memoryText).toList ++
    options (if service then "--limit-memory" else "--memory")
      (r.limitMemory.map memoryText).toList ++
    options (if service then "--limit-cpu" else "--cpus")
      (r.limitCpu.map Double.plainText).toList

/-- The options that describe a container or a service. -/
def launchOptions (service : Bool) (r : Resolved) : List (String × String) :=
  options "--workdir" r.workingDirectory.toList ++
    options "--env" (r.environment.entries.map variableText) ++
    options "--mount" ((bindings r).map Binding.text) ++
    options "--publish" ((published r).map portText) ++
    limitOptions service r

/-- The arguments that options make. -/
def spread (os : List (String × String)) : List String :=
  os.flatMap fun o => [o.1, o.2]

/-- The texts of the options of a flag. -/
def textsOf (flag : String) (os : List (String × String)) : List String :=
  os.filterMap fun o => if o.1 = flag then some o.2 else none

theorem spread_injective : Function.Injective spread := by
  intro os
  induction os with
  | nil =>
    rintro (_ | ⟨o, rest⟩) h
    · rfl
    · simp [spread] at h
  | cons o os ih =>
    rintro (_ | ⟨o', os'⟩) h
    · simp [spread] at h
    · simp only [spread, List.flatMap_cons, List.cons_append, List.nil_append,
        List.cons.injEq] at h
      obtain ⟨hflag, htext, hrest⟩ := h
      rw [ih hrest, Prod.ext hflag htext]

theorem spread_append (os os' : List (String × String)) :
    spread (os ++ os') = spread os ++ spread os' :=
  List.flatMap_append

theorem spread_options (flag : String) (texts : List String) :
    spread (options flag texts) = texts.flatMap fun text => [flag, text] := by
  rw [spread, options, List.flatMap_map]

theorem spread_options_toList {α : Type} (flag : String) (text : α → String) (v : Option α) :
    spread (options flag (v.map text).toList) = flagged flag text v := by
  cases v <;> rfl

@[simp] theorem textsOf_append (flag : String) (os os' : List (String × String)) :
    textsOf flag (os ++ os') = textsOf flag os ++ textsOf flag os' :=
  List.filterMap_append

@[simp] theorem textsOf_options_self (flag : String) (texts : List String) :
    textsOf flag (options flag texts) = texts := by
  simp [textsOf, options, List.filterMap_map]

@[simp] theorem textsOf_options_of_ne {flag other : String} (h : other ≠ flag)
    (texts : List String) : textsOf flag (options other texts) = [] := by
  simp [textsOf, options, h]

theorem spread_limitOptions (service : Bool) (r : Resolved) :
    spread (limitOptions service r) = limitArguments service r := by
  simp only [limitOptions, limitArguments, spread_append, spread_options_toList]
  cases service <;> rfl

theorem spread_launchOptions (service : Bool) (r : Resolved) :
    spread (launchOptions service r) = launchArguments service r := by
  have hdir : spread (options "--workdir" r.workingDirectory.toList) =
      flagged "--workdir" id r.workingDirectory := by
    rw [← spread_options_toList, Option.map_id, id]
  rw [launchArguments, filterMap_mountArgument?, filterMap_portArgument?]
  simp only [launchOptions, spread_append, hdir, spread_limitOptions, spread_options,
    List.flatMap_map, variableText]

/-- No limit is read as a directory, a variable, a mount or a port. -/
@[simp] theorem textsOf_limitOptions (service : Bool) (r : Resolved) {flag : String}
    (h : flag ∈ ["--workdir", "--env", "--mount", "--publish"]) :
    textsOf flag (limitOptions service r) = [] := by
  have hne : ∀ other ∈ ["--reserve-memory", "--memory-reservation", "--limit-memory", "--memory",
      "--limit-cpu", "--cpus"], ∀ flag ∈ ["--workdir", "--env", "--mount", "--publish"],
      other ≠ flag := by decide
  simp only [limitOptions, textsOf_append]
  rw [textsOf_options_of_ne, textsOf_options_of_ne, textsOf_options_of_ne]
  · rfl
  all_goals cases service <;> exact hne _ (by simp) flag h

/-! ## Commands that are written alike -/

/-- Two commands whose options are written alike, one by one. -/
structure WrittenAlike (service : Bool) (r r' : Resolved) : Prop where
  workingDirectory : r.workingDirectory = r'.workingDirectory
  environment : List.Forall₂ (Text.Alike "=") r.environment.entries r'.environment.entries
  bindings : List.Forall₂ Binding.Alike (bindings r) (bindings r')
  ports : List.Forall₂ (fun p q => Text.Alike ":" p.swap q.swap) (published r) (published r')
  limits : limitArguments service r = limitArguments service r'

theorem map_eq_map_iff {α β : Type} {text : α → β} {R : α → α → Prop}
    (h : ∀ a b, text a = text b ↔ R a b) (as bs : List α) :
    as.map text = bs.map text ↔ List.Forall₂ R as bs := by
  rw [← List.forall₂_eq_eq_eq, List.forall₂_map_left_iff, List.forall₂_map_right_iff]
  simp only [h]

/-- Two commands have the same arguments exactly if their options are written alike: nothing else
can take the place of anything. -/
theorem launchArguments_eq_iff (service : Bool) (r r' : Resolved) :
    launchArguments service r = launchArguments service r' ↔ WrittenAlike service r r' := by
  have henv := map_eq_map_iff variableText_eq_iff r.environment.entries r'.environment.entries
  have hbindings := map_eq_map_iff Binding.text_eq_iff (bindings r) (bindings r')
  have hports := map_eq_map_iff portText_eq_iff (published r) (published r')
  rw [← spread_launchOptions, ← spread_launchOptions, spread_injective.eq_iff]
  constructor
  · intro h
    -- what was written with a flag is read back by it, as no other option has the flag
    have hread (flag : String) := congrArg (textsOf flag) h
    have hdir : r.workingDirectory = r'.workingDirectory := by
      have hfirst := congrArg List.head? (hread "--workdir")
      simpa [launchOptions] using hfirst
    have he := by simpa [launchOptions] using hread "--env"
    have hb := by simpa [launchOptions] using hread "--mount"
    have hp := by simpa [launchOptions] using hread "--publish"
    refine ⟨hdir, henv.1 he, hbindings.1 hb, hports.1 hp, ?_⟩
    -- the limits are what is left
    rw [launchOptions, launchOptions, hdir, he, hb, hp, List.append_cancel_left_eq] at h
    rw [← spread_limitOptions, ← spread_limitOptions, h]
  · rintro ⟨hdir, he, hb, hp, hlimits⟩
    rw [← spread_limitOptions, ← spread_limitOptions, spread_injective.eq_iff] at hlimits
    rw [launchOptions, launchOptions, hdir, henv.2 he, hbindings.2 hb, hports.2 hp, hlimits]

/-! ## Commands that can be told apart -/

/-- The engine is told of every mount and of every port. -/
structure IsTold (r : Resolved) : Prop where
  mounts : ∀ m ∈ r.mounts, m.bindSource?.isSome = true
  ports : ∀ p ∈ r.ports.entries, p.2.isEmpty = false

instance (r : Resolved) : Decidable (IsTold r) :=
  decidable_of_iff (_ ∧ _) ⟨fun h => ⟨h.1, h.2⟩, fun h => ⟨h.mounts, h.ports⟩⟩

/-- A mount in which no separator stands where it could be taken for another. -/
structure Binding.IsPlain (b : Binding) : Prop where
  source : ¬ Text.Within ",target=" b.source
  containerPath : b.writable = true → ¬ ",readonly".toList <:+ b.containerPath.toList

instance (b : Binding) : Decidable b.IsPlain :=
  decidable_of_iff (_ ∧ _) ⟨fun h => ⟨h.1, h.2⟩, fun h => ⟨h.source, h.containerPath⟩⟩

/-- A command in which no separator stands where it could be taken for another. -/
structure IsPlain (r : Resolved) : Prop where
  environment : ∀ e ∈ r.environment.entries, ¬ Text.Within "=" e.1
  bindings : ∀ b ∈ bindings r, b.IsPlain
  ports : ∀ p ∈ r.ports.entries, ¬ Text.Within ":" p.2

instance (r : Resolved) : Decidable (IsPlain r) :=
  decidable_of_iff (_ ∧ _ ∧ _)
    ⟨fun h => ⟨h.1, h.2.1, h.2.2⟩, fun h => ⟨h.environment, h.bindings, h.ports⟩⟩

/-- Two commands with the same mounts, variables and ports, as far as the engine is concerned. -/
structure SameContent (r r' : Resolved) : Prop where
  mounts : r.mounts.map (fun m => (m.bindSource?, m.containerPath, m.writable)) =
    r'.mounts.map fun m => (m.bindSource?, m.containerPath, m.writable)
  environment : r.environment = r'.environment
  ports : r.ports = r'.ports

instance (r r' : Resolved) : Decidable (SameContent r r') :=
  decidable_of_iff (_ ∧ _ ∧ _)
    ⟨fun h => ⟨h.1, h.2.1, h.2.2⟩, fun h => ⟨h.mounts, h.environment, h.ports⟩⟩

theorem eq_of_forall₂ {α : Type} {R : α → α → Prop} {as bs : List α} (h : List.Forall₂ R as bs)
    (heq : ∀ a ∈ as, ∀ b ∈ bs, R a b → a = b) : as = bs := by
  induction h with
  | nil => rfl
  | cons hab _ ih =>
    rw [heq _ (by simp) _ (by simp) hab, ih fun a ha b hb => heq a (by simp [ha]) b (by simp [hb])]

theorem Binding.Alike.eq {b b' : Binding} (h : b.Alike b') (hb : b.IsPlain) (hb' : b'.IsPlain) :
    b = b' := by
  have hends (path : String) : ",readonly".toList <:+ (path ++ ",readonly").toList :=
    ⟨path.toList, String.toList_append.symm⟩
  obtain ⟨hsource, htarget⟩ := Prod.ext_iff.1 (Text.Alike.eq h hb.source hb'.source)
  rcases (target_eq_iff b b').1 htarget with ⟨hpath, hwritable⟩ | ⟨hw, -, hpath⟩ | ⟨-, hw, hpath⟩
  · exact Binding.ext hsource hpath hwritable
  · exact absurd (hpath ▸ hends b'.containerPath) (hb.containerPath hw)
  · exact absurd (hpath ▸ hends b.containerPath) (hb'.containerPath hw)

theorem published_eq {r : Resolved} (h : IsTold r) : published r = r.ports.entries :=
  List.filter_eq_self.2 fun p hp => by simp [h.ports p hp]

theorem mounts_eq {r : Resolved} (h : IsTold r) :
    r.mounts.map (fun m => (m.bindSource?, m.containerPath, m.writable)) =
      (bindings r).map fun b => (some b.source, b.containerPath, b.writable) := by
  rw [bindings, List.map_filterMap, ← List.filterMap_eq_map]
  refine (List.filterMap_congr fun m hm => ?_).symm
  obtain ⟨source, hsource⟩ := Option.isSome_iff_exists.1 (h.mounts m hm)
  simp [binding?, hsource]

/-- Two commands with the same arguments are written alike, and where both are plain they have the
same content. -/
theorem launchArguments_alike {service : Bool} {r r' : Resolved} (hr : IsTold r) (hr' : IsTold r')
    (h : launchArguments service r = launchArguments service r') :
    WrittenAlike service r r' ∧ (IsPlain r → IsPlain r' → SameContent r r') := by
  have halike := (launchArguments_eq_iff service r r').1 h
  refine ⟨halike, fun hp hp' => ⟨?_, OrderedMap.ext ?_, OrderedMap.ext ?_⟩⟩
  · rw [mounts_eq hr, mounts_eq hr', eq_of_forall₂ halike.bindings fun b hb b' hb' hbb' =>
      hbb'.eq (hp.bindings b hb) (hp'.bindings b' hb')]
  · exact eq_of_forall₂ halike.environment fun e he e' he' hee' =>
      hee'.eq (hp.environment e he) (hp'.environment e' he')
  · have hports := halike.ports
    rw [published_eq hr, published_eq hr'] at hports
    exact eq_of_forall₂ hports fun p hmem p' hmem' hpp' =>
      Prod.swap_inj.1 (hpp'.eq (hp.ports p hmem) (hp'.ports p' hmem'))

/-- A command that reads a directory, with a variable and a port. -/
def reading (host : String) (engine : Option String) : Resolved where
  commandId := 1
  commandName := "read"
  image := "busybox"
  commandLine := "true"
  environment := .ofPairs [("OPTIONS", "a=b")]
  ports := .ofPairs [("80", "8080")]
  mounts := [⟨"in", "/in", false, some host, engine, none⟩]

/-- A directory that the engine knows by another name. -/
theorem launchArguments_alike_reading :
    WrittenAlike true (reading "/data" none) (reading "/site" (some "/data")) ∧
      SameContent (reading "/data" none) (reading "/site" (some "/data")) :=
  have h := launchArguments_alike (by decide : IsTold (reading "/data" none))
    (by decide : IsTold (reading "/site" (some "/data")))
    (by decide : launchArguments true (reading "/data" none) = launchArguments true _)
  ⟨h.1, h.2 (by decide) (by decide)⟩

/-- Two commands that the engine is told of in the same words, but for different things. -/
def Mistaken (r r' : Resolved) : Prop :=
  IsTold r ∧ IsTold r' ∧
    (∀ service, launchArguments service r = launchArguments service r') ∧ ¬ SameContent r r'

instance (r r' : Resolved) : Decidable (Mistaken r r') := by
  unfold Mistaken
  infer_instance

/-- A command with one mount. -/
def mounting (source containerPath : String) (writable : Bool) : Resolved :=
  { reading "" none with mounts := [⟨"m", containerPath, writable, some source, none, none⟩] }

/-- A command with one variable. -/
def setting (name value : String) : Resolved :=
  { reading "/data" none with environment := .ofPairs [(name, value)] }

/-- A command with one port. -/
def publishing (host container : String) : Resolved :=
  { reading "/data" none with ports := .ofPairs [(container, host)] }

/-- Nothing that makes a command plain can be left out: a mount that may be written is read like one
that may not, and a mount, a variable and a port like another. -/
theorem launchArguments_mistaken :
    Mistaken (mounting "/data" "/in,readonly" true) (mounting "/data" "/in" false) ∧
      Mistaken (mounting "/a,target=/b" "/c" true) (mounting "/a" "/b,target=/c" true) ∧
      Mistaken (setting "A=B" "C") (setting "A" "B=C") ∧
      Mistaken (publishing "1:2" "3") (publishing "1" "2:3") := by
  decide

end Engine

end Mooring
