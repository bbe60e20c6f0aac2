import Mooring.Proofs.Fallible
import Mooring.Proofs.Path.Printing
import Mooring.Resolution.Rules

set_option autoImplicit false

/-!
# Picking from a list in the parent

A file, a resource or a site object with a parent is picked from the candidates that a path selects
in the document of the parent: the first one that the value names and that the matcher accepts
(`Picks`). A path that selects a list alone stands for the items of the list, and so does the
path with a wildcard after it, as long as no item is a list itself (`candidates_wildcard`): a list
with one item that is a list would be taken apart twice. So an input is picked in the same way with
either path (`picks_listed`).
-/

namespace Mooring

/-! ## Filters for members -/

/-- Whether an item has a member that equals a text, as filters compare values. -/
def Json.HasMember (name text : String) (item : Json) : Prop :=
  ∃ v, item.member? name = some v ∧ Path.looseEq v (.str text) = true

theorem Filter.accepts_fieldEquals_iff {field value : String} {item : Json} :
    (Filter.fieldEquals field value).accepts item = true ↔ item.HasMember field value := by
  -- a child is selected alone or not at all, so the operand is the member
  have hchild : Path.operandValue?
      (Path.selectFrom item [.child field] [Path.Root.current.start item item]) =
        item.member? field := by
    simp only [Path.selectFrom, Path.Segment.find, Path.Root.start, List.flatMap_singleton]
    cases item.member? field <;> rfl
  simp only [Filter.accepts, Filter.fieldEquals, Path.Condition.holds, Path.Operand.value?, hchild,
    Json.HasMember]
  cases item.member? field with
  | none => simp [Path.holdsBetween]
  | some v => simp [Path.holdsBetween, Path.Comparison.holds]

namespace Resolution

/-! ## What an input is picked from -/

/-- Whether the values of a type are picked from a document of the parent. -/
def IsPicked (type : InputType) : Prop :=
  type = .file ∨ type = .resource ∨ type.isSiteObject = true

/-- Whether an item is the one that a value means: a file goes by its name, anything else by its
identifier or label. -/
def IsMeant (type : InputType) (value : String) (item : Json) : Prop :=
  if type = .file then item.HasMember "name" value
  else item.HasMember "id" value ∨ item.HasMember "label" value

/-- The filter for the items that a value may mean. -/
def meant (type : InputType) : String → Filter :=
  if type = .file then named else idOrLabel

theorem accepts_meant_iff {type : InputType} {value : String} {item : Json} :
    (meant type value).accepts item = true ↔ IsMeant type value item := by
  unfold meant IsMeant
  split
  · exact Filter.accepts_fieldEquals_iff
  · rw [idOrLabel, Filter.accepts_or, Bool.or_eq_true, Filter.accepts_fieldEquals_iff,
      Filter.accepts_fieldEquals_iff]

namespace InputContext

variable {ctx : InputContext} {type : InputType} {document : Json}

/-- The context of an input whose parent has a document, in which the path of the input selects. -/
structure IsInside (ctx : InputContext) (document : Json) : Prop where
  declared : ctx.input.parent.isSome = true
  resolved : ∃ parent text, ctx.parent = some parent ∧ parent.value = some text ∧
    Json.read? text = some document

theorem IsInside.parentDocument (h : ctx.IsInside document) :
    ctx.parentDocument = .ok (some document) := by
  obtain ⟨parent, text, hparent, htext, hread⟩ := h.resolved
  simp only [InputContext.parentDocument, InputContext.readJson, hparent, htext, hread]
  rfl

/-- The same input with another path into the parent. -/
def withProperty (ctx : InputContext) (path : String) : InputContext :=
  { ctx with input := { ctx.input with parentProperty := some path } }

theorem IsInside.withProperty (h : ctx.IsInside document) (path : String) :
    (ctx.withProperty path).IsInside document :=
  ⟨h.declared, h.resolved⟩

/-- Whether an item may be picked: the value of the input means it, if there is one, and the matcher
accepts it, if there is one. -/
structure Qualifies (ctx : InputContext) (type : InputType) (item : Json) : Prop where
  meant : ∀ value, ctx.value = some value → IsMeant type value item
  accepted : ∀ m, ctx.matcher = some m → m.accepts item = true

/-- Whether an item may be picked, as a test. -/
def mayPick (ctx : InputContext) (type : InputType) (item : Json) : Bool :=
  ctx.value.all (fun value => (Resolution.meant type value).accepts item) &&
    ctx.matcher.all (fun m => m.accepts item)

variable {found : List Json} {item : Json}

theorem mayPick_iff : ctx.mayPick type item = true ↔ ctx.Qualifies type item := by
  simp only [mayPick, Bool.and_eq_true, Option.all_eq_true, accepts_meant_iff]
  exact ⟨fun h => ⟨h.1, h.2⟩, fun h => ⟨h.meant, h.accepted⟩⟩

/-- The candidates that may be picked. -/
def qualified (ctx : InputContext) (type : InputType) (found : List Json) : List Json :=
  ctx.matching (ctx.naming (Resolution.meant type) found)

theorem qualified_eq_filter : ctx.qualified type found = found.filter (ctx.mayPick type) := by
  unfold qualified matching naming Filter.retain mayPick
  cases ctx.value <;> cases ctx.matcher <;> simp [List.filter_filter, Bool.and_comm]

/-- What an input is given from the candidates: the first that may be picked. A site object with a
matcher has to be given one. -/
inductive Picks (ctx : InputContext) (type : InputType) (found : List Json) :
    Except ResolutionError (Option String) → Prop
  | first {front back : List Json} {item : Json} (split : found = front ++ item :: back)
      (qualifies : ctx.Qualifies type item) (earlier : ∀ x ∈ front, ¬ ctx.Qualifies type x) :
      Picks ctx type found (.ok (some item.display))
  | null (nowhere : ∀ x ∈ found, ¬ ctx.Qualifies type x)
      (free : type.isSiteObject = true → ctx.matcher = none) : Picks ctx type found (.ok none)
  | unsatisfied {parent : Resolved.Input} {m : Filter} (nowhere : ∀ x ∈ found, ¬ ctx.Qualifies type x)
      (object : type.isSiteObject = true) (resolved : ctx.parent = some parent)
      (matcher : ctx.matcher = some m) :
      Picks ctx type found (.error (ctx.fault (.noneSatisfies type parent.name m.source)))

/-- The first of the candidates that may be picked, or why there has to be one. -/
def pick (ctx : InputContext) (type : InputType) (found : List Json) :
    Except ResolutionError (Option String) :=
  match type.isSiteObject, ctx.matcher with
  | true, some m =>
    if (ctx.qualified type found).isEmpty then
      .error (ctx.fault (.noneSatisfies type ((ctx.parent.map Resolved.Input.name).getD "") m.source))
    else .ok (firstText (ctx.qualified type found))
  | _, _ => .ok (firstText (ctx.qualified type found))

theorem qualified_eq_nil_iff : ctx.qualified type found = [] ↔ ∀ x ∈ found, ¬ ctx.Qualifies type x := by
  simp only [qualified_eq_filter, List.filter_eq_nil_iff, mayPick_iff]

/-- The first candidate that qualifies is the first of all candidates with nothing that qualifies
before it. -/
theorem head?_qualified_eq_some_iff :
    (ctx.qualified type found).head? = some item ↔
      ∃ front back, found = front ++ item :: back ∧ ctx.Qualifies type item ∧
        ∀ x ∈ front, ¬ ctx.Qualifies type x := by
  rw [qualified_eq_filter, List.head?_filter, List.find?_eq_some_iff_append]
  simp only [Bool.not_eq_true', Bool.eq_false_iff, ne_eq, mayPick_iff]
  constructor
  · rintro ⟨hitem, front, back, hsplit, hfront⟩
    exact ⟨front, back, hsplit, hitem, hfront⟩
  · rintro ⟨front, back, hsplit, hitem, hfront⟩
    exact ⟨hitem, front, back, hsplit, hfront⟩

theorem picks_pick (h : ctx.IsInside document) (type : InputType) (found : List Json) :
    ctx.Picks type found (ctx.pick type found) := by
  obtain ⟨parent, -, hparent, -⟩ := h.resolved
  cases hchosen : ctx.qualified type found with
  | nil =>
    have hnowhere := qualified_eq_nil_iff.1 hchosen
    unfold pick
    split
    · next m hobject hmatcher =>
      simp only [hchosen, hparent]
      exact .unsatisfied hnowhere hobject hparent hmatcher
    · next hfree =>
      rw [hchosen]
      refine .null hnowhere fun hobject => ?_
      cases hmatcher : ctx.matcher with
      | none => rfl
      | some m => exact (hfree m hobject hmatcher).elim
  | cons item rest =>
    obtain ⟨front, back, hsplit, hitem, hfront⟩ :=
      head?_qualified_eq_some_iff.1 (congrArg List.head? hchosen)
    have hpick : ctx.pick type found = .ok (some item.display) := by
      unfold pick
      split <;> simp [hchosen, firstText]
    rw [hpick]
    exact .first hsplit hitem hfront

/-! ## The rules -/

/-- The rules of types that are picked select candidates with the path of the input, and pick. -/
theorem rule_eq_pick [Regex.Compiler] {rule : InputRule} (htype : IsPicked type)
    (hrule : InputRules.standard type = some rule) (h : ctx.IsInside document) {path : String}
    (hpath : ctx.input.parentProperty = some path) :
    rule ctx = candidates document path >>= fun found => ctx.pick type found := by
  have hdeclared : ctx.input.parent.isNone = false := by
    simpa using h.declared
  rcases htype with rfl | rfl | hobject
  · cases hrule
    simp only [fileRule, hdeclared, h.parentDocument, hpath]
    rfl
  · cases hrule
    simp only [resourceRule, hdeclared, h.parentDocument, hpath]
    rfl
  · have hnested : rule ctx = nestedObjectRule type ctx := by
      cases type <;> cases hobject <;> cases hrule <;> simp [siteObjectRule, hdeclared]
    have hmeant : Resolution.meant type = idOrLabel := by
      cases type <;> cases hobject <;> rfl
    rw [hnested]
    simp only [nestedObjectRule, h.parentDocument, hpath, pick, qualified, matching, hobject, hmeant]
    show candidates document path >>= _ = _
    refine congrArg (candidates document path >>= ·) (funext fun found => ?_)
    cases ctx.matcher <;> rfl

end InputContext

/-! ## Lists and their items -/

/-- A path that selects one list, none of whose items is a list, has the items as its candidates,
and so has the path with a wildcard after it. -/
theorem candidates_wildcard [Regex.Compiler] {document : Json} {p : String} {a : Path}
    {items : List Json} (ha : Path.read p = .ok a)
    (hend : ∀ c, p.toList.getLast? = some c → Text.isBlank c = false)
    (hselect : a.select document = [.arr items]) (hflat : ∀ x ∈ items, ∀ inner, x ≠ .arr inner) :
    candidates document p = .ok items ∧ candidates document (p ++ "[*]") = .ok items := by
  have hlegible : ∀ s ∈ [Path.Spelling.wildcard], s.IsLegible := by decide
  have hread := Path.read_append_printed ha hend hlegible
  rw [show Path.printed [Path.Spelling.wildcard] = "[*]" by decide, List.map_singleton,
    Path.Spelling.segment] at hread
  -- the wildcard finds the items, and one item alone is not taken for a list again
  have hitems : Path.select ⟨p ++ "[*]", a.root, a.segments ++ [.wildcard]⟩ document = items := by
    show Path.selectFrom document (a.segments ++ [.wildcard]) _ = _
    rw [Path.selectFrom_append]
    show Path.selectFrom document [.wildcard] (a.select document) = _
    rw [hselect]
    simp [Path.selectFrom, Path.Segment.find]
  -- were the only item a list, its own items would be taken here
  have hstay : itemsOfOne items = items := by
    unfold itemsOfOne
    split
    · next inner => exact absurd rfl (hflat (.arr inner) List.mem_cons_self inner)
    · rfl
  constructor
  · simp only [candidates, Path.parse, ha, Except.mapError]
    show Except.ok (itemsOfOne (a.select document)) = _
    rw [hselect]
    rfl
  · simp only [candidates, Path.parse, hread, Except.mapError]
    show Except.ok (itemsOfOne (Path.select _ document)) = _
    rw [hitems, hstay]

open InputContext in
/-- An input that is picked from a list in its parent has the same value, or the same error, with the
path to the list and with the path to its items: it has the first item that its value means and its
matcher accepts. If there is none, it has no value, and a site object with a matcher an error. -/
theorem picks_listed [Regex.Compiler] {type : InputType} {rule : InputRule} {ctx : InputContext}
    {document : Json} {p : String} {a : Path} {items : List Json} (htype : IsPicked type)
    (hrule : InputRules.standard type = some rule) (hinside : ctx.IsInside document)
    (ha : Path.read p = .ok a) (hend : ∀ c, p.toList.getLast? = some c → Text.isBlank c = false)
    (hselect : a.select document = [.arr items]) (hflat : ∀ x ∈ items, ∀ inner, x ≠ .arr inner) :
    rule (ctx.withProperty p) = rule (ctx.withProperty (p ++ "[*]")) ∧
      ctx.Picks type items (rule (ctx.withProperty p)) := by
  obtain ⟨hlist, hwildcard⟩ := candidates_wildcard ha hend hselect hflat
  have hrulep := rule_eq_pick htype hrule (hinside.withProperty p) rfl
  have hrulew := rule_eq_pick htype hrule (hinside.withProperty (p ++ "[*]")) rfl
  rw [hlist] at hrulep
  rw [hwildcard] at hrulew
  rw [hrulep, hrulew]
  exact ⟨rfl, picks_pick hinside type items⟩

/-! ## The scans of a session -/

/-- A session with two scans that a value may mean, of which the second is usable. -/
def sessionText : String :=
  "\x7b\"scans\": [\x7b\"label\": \"T1\", \"quality\": \"poor\"\x7d, " ++
    "\x7b\"id\": \"T1\", \"quality\": \"usable\"\x7d]\x7d"

/-- The scans of the session. -/
def sessionScans : List Json :=
  [.obj [("label", .str "T1"), ("quality", .str "poor")],
    .obj [("id", .str "T1"), ("quality", .str "usable")]]

/-- An input that asks for a usable scan of the session. -/
def usableScan : InputContext where
  input := { name := "scan", type := .scan, parent := some "session" }
  value := some "T1"
  parent := some { name := "session", type := .session, value := some sessionText }
  matcher := some (.fieldEquals "quality" "usable")
  site := .nothing

theorem usableScan_isInside : usableScan.IsInside (.obj [("scans", .arr sessionScans)]) where
  declared := rfl
  resolved := ⟨_, sessionText, rfl, rfl, by decide +kernel⟩

theorem read_scans [Regex.Compiler] :
    Path.read "$.scans" = .ok ⟨"$.scans", .document, [.child "scans"]⟩ := by
  have hlegible : ∀ s ∈ [Path.Spelling.dotted "scans"], s.IsLegible := by decide
  have hread := Path.read_append_printed Path.read_document Path.isBlank_getLast?_document hlegible
  rwa [show "$" ++ Path.printed [Path.Spelling.dotted "scans"] = "$.scans" by decide] at hread

theorem picks_listed_scans :
    IsPicked .scan ∧ InputRules.standard .scan = some (siteObjectRule .scan) ∧
      usableScan.IsInside (.obj [("scans", .arr sessionScans)]) ∧
      Path.select ⟨"$.scans", .document, [.child "scans"]⟩ (.obj [("scans", .arr sessionScans)]) =
        [.arr sessionScans] ∧
      siteObjectRule .scan (usableScan.withProperty "$.scans[*]") =
        .ok (some "\x7b\"id\":\"T1\",\"quality\":\"usable\"\x7d") := by
  have htype : IsPicked .scan := .inr (.inr rfl)
  have hend : ∀ c, "$.scans".toList.getLast? = some c → Text.isBlank c = false := by
    intro c hc
    obtain rfl : 's' = c := Option.some.inj hc
    decide
  have hflat : ∀ x ∈ sessionScans, ∀ inner, x ≠ .arr inner := by
    simp [sessionScans]
  have hpicked := picks_listed htype rfl usableScan_isInside read_scans hend rfl hflat
  refine ⟨htype, rfl, usableScan_isInside, rfl, ?_⟩
  rw [show "$.scans[*]" = "$.scans" ++ "[*]" by decide, ← hpicked.1,
    InputContext.rule_eq_pick htype rfl (usableScan_isInside.withProperty _) rfl,
    (candidates_wildcard read_scans hend rfl hflat).1]
  have hchosen : firstText (usableScan.qualified .scan sessionScans) =
      some "\x7b\"id\":\"T1\",\"quality\":\"usable\"\x7d" := by decide +kernel
  exact congrArg Except.ok hchosen

end Resolution

end Mooring
