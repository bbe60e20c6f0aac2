import Mooring.Proofs.Path.Concatenation
import Mooring.Resolution.Template

set_option autoImplicit false

/-!
# Paths between carets

Carets pair up from the left: one with text after it takes the next one for its partner, whatever
the text between them is, and a pair around anything but a path stays as it is. `Caret` follows this
over a text without paths. What the text does to a path between carets after it depends on no more
than the caret that it leaves open (`expandText_append`): the path is replaced in its place just if
there is none (`expand_path_iff`), and otherwise it stays, since the caret before it is taken for
the partner of the one in the text.
-/

namespace Mooring

namespace Path

/-- Nothing but the start of a path selects something in a document without members and items. -/
theorem select_null (p : Path) : p.select .null = [] ∨ p.select .null = [.null] := by
  show selectFrom .null p.segments [p.root.start .null .null] = [] ∨
    selectFrom .null p.segments [p.root.start .null .null] = [.null]
  rw [Root.start_self]
  cases p.segments with
  | nil => exact .inr rfl
  | cons g gs =>
    have hnone : g.find .null .null = [] := by
      cases g <;> simp only [Segment.find] <;> rfl
    left
    rw [selectFrom, List.flatMap_singleton, hnone, selectFrom_flatMap]
    rfl

end Path

namespace Template

variable {document : Json} {c : Char} {cs inner u rest : List Char}

/-! ## One step of the expansion -/

theorem map_nil_append (x : Except ResolutionError (List Char)) : x.map ([] ++ ·) = x := by
  cases x <;> rfl

theorem map_append_map (a b : List Char) (x : Except ResolutionError (List Char)) :
    (x.map (b ++ ·)).map (a ++ ·) = x.map (a ++ b ++ ·) := by
  cases x <;> simp [Except.map]

theorem expandText_cons [Regex.Compiler] (hc : c ≠ '^') (cs : List Char) :
    expandText document (c :: cs) = (expandText document cs).map (c :: ·) := by
  rw [expandText]
  · cases expandText document cs <;> rfl
  · exact hc

theorem expandText_append_of_notMem [Regex.Compiler] (h : '^' ∉ cs) (rest : List Char) :
    expandText document (cs ++ rest) = (expandText document rest).map (cs ++ ·) := by
  induction cs with
  | nil => exact (map_nil_append _).symm
  | cons c cs ih =>
    rw [List.mem_cons, not_or] at h
    rw [List.cons_append, expandText_cons (Ne.symm h.1), ih h.2]
    exact map_append_map [c] cs _

theorem expand_empty [Regex.Compiler] (document : Json) : expand "" document = .ok "" := by
  rw [expand]
  show (expandText document []).map _ = _
  rw [expandText]
  rfl

theorem expand_caret [Regex.Compiler] (document : Json) :
    expand ("^" ++ "") document = .ok "^" := by
  rw [expand]
  show (expandText document ['^']).map _ = _
  rw [expandText]
  rfl

/-- Of two carets side by side the second starts anew. -/
theorem expandText_carets [Regex.Compiler] (rest : List Char) :
    expandText document ('^' :: '^' :: rest) =
      (expandText document ('^' :: rest)).map ('^' :: ·) := by
  rw [expandText]
  simp only [List.contains_cons, beq_self_eq_true, Bool.true_or, Bool.not_true]
  rw [if_neg (by decide), if_pos (by rfl)]
  cases expandText document ('^' :: rest) <;> rfl

section Pair

variable (hne : inner ≠ []) (hinner : '^' ∉ inner)
include hne hinner

/-- Two carets with text between them are a pair. -/
theorem expandText_pair [Regex.Compiler] (document : Json) (rest : List Char) :
    expandText document ('^' :: (inner ++ '^' :: rest)) =
      if isPathText (Text.trim inner) then
        pathValue document (String.ofList (Text.trim inner)) >>= fun value =>
          (expandText document rest).map (value ++ ·)
      else (expandText document rest).map ('^' :: inner ++ ['^'] ++ ·) := by
  have hall : ∀ c ∈ inner, (c != '^') = true := by
    intro c hc
    rw [bne_iff_ne]
    rintro rfl
    exact hinner hc
  have htake : (inner ++ '^' :: rest).takeWhile (· != '^') = inner := by
    rw [List.takeWhile_append_of_pos hall]
    simp
  have hdrop : ((inner ++ '^' :: rest).dropWhile (· != '^')).tail = rest := by
    rw [List.dropWhile_append_of_pos hall]
    simp
  rw [expandText, htake, hdrop]
  simp only [List.contains_eq_mem, List.mem_append, List.mem_cons, true_or, or_true, decide_true,
    Bool.not_true]
  rw [if_neg (by decide), if_neg (mt List.isEmpty_iff.1 hne)]
  split
  · refine congrArg (_ >>= ·) (funext fun value => ?_)
    cases expandText document rest <;> rfl
  · cases expandText document rest
    · rfl
    · simp [Except.map, bind, Except.bind, pure, Except.pure]

end Pair

/-! ## The caret that a text leaves open -/

/-- Whether a caret waits for its partner, and whether text stands after it. -/
inductive Caret where
  | none
  | bare
  | followed
  deriving DecidableEq

/-- A caret with text after it takes the next one for its partner. -/
def Caret.step : Caret → Char → Caret
  | none, c => if c = '^' then bare else none
  | bare, c => if c = '^' then bare else followed
  | followed, c => if c = '^' then none else followed

/-- The caret that waits for its partner after a text. -/
def openCaret (cs : List Char) : Caret :=
  cs.foldl Caret.step .none

theorem foldl_step_of_notMem (h : '^' ∉ cs) :
    cs.foldl Caret.step .followed = .followed ∧ cs.foldl Caret.step .none = .none := by
  induction cs with
  | nil => exact ⟨rfl, rfl⟩
  | cons c cs ih =>
    rw [List.mem_cons, not_or] at h
    have hc : c ≠ '^' := Ne.symm h.1
    simp only [List.foldl_cons, Caret.step, if_neg hc]
    exact ih h.2

/-- Text after a caret keeps it open. -/
theorem openCaret_caret_append (hne : inner ≠ []) (hinner : '^' ∉ inner) (cs : List Char) :
    openCaret ('^' :: (inner ++ cs)) = cs.foldl Caret.step .followed := by
  obtain ⟨c, inner, rfl⟩ := List.exists_cons_of_ne_nil hne
  rw [List.mem_cons, not_or] at hinner
  have hc : c ≠ '^' := Ne.symm hinner.1
  rw [openCaret, List.foldl_cons, List.foldl_append, List.foldl_cons, Caret.step, if_pos rfl,
    Caret.step, if_neg hc, (foldl_step_of_notMem hinner.2).1]

/-- Whether no caret of a text stands before the sign of a root, blanks aside. -/
def IsPathFree (cs : List Char) : Prop :=
  ∀ before after, cs = before ++ '^' :: after → isPathText (Text.trimStart after) = false

theorem isPathFree_cons_iff :
    IsPathFree (c :: cs) ↔
      (c = '^' → isPathText (Text.trimStart cs) = false) ∧ IsPathFree cs := by
  constructor
  · intro h
    refine ⟨?_, ?_⟩
    · rintro rfl
      exact h [] cs rfl
    · rintro before after rfl
      exact h (c :: before) after rfl
  · rintro ⟨hc, h⟩ before after he
    cases before with
    | nil =>
      obtain ⟨rfl, rfl⟩ := List.cons.inj he
      exact hc rfl
    | cons d before => exact h before after (List.cons.inj he).2

instance : (cs : List Char) → Decidable (IsPathFree cs)
  | [] => isTrue fun before after he => by simp at he
  | _ :: cs =>
    have := instDecidableIsPathFree cs
    decidable_of_iff' _ isPathFree_cons_iff

theorem IsPathFree.of_suffix (h : IsPathFree cs) (hsuffix : rest <:+ cs) : IsPathFree rest := by
  obtain ⟨front, rfl⟩ := hsuffix
  rintro before after rfl
  exact h (front ++ before) after (by simp)

/-- In a text without paths no pair holds one. -/
theorem IsPathFree.not_isPathText (h : IsPathFree ('^' :: (inner ++ rest))) :
    isPathText (Text.trim inner) = false := by
  refine Bool.eq_false_iff.2 fun hpath => ?_
  -- the sign that starts the trimmed text starts what follows the caret
  cases hstart : Text.trimStart inner with
  | nil =>
    rw [Text.trim, hstart] at hpath
    cases hpath
  | cons c cs =>
    have hblank : Text.isBlank c = false := by
      have hhead := List.head?_dropWhile_not Text.isBlank inner
      rw [← Text.trimStart, hstart] at hhead
      simpa using hhead
    have hmem : c ∈ inner := (List.dropWhile_suffix _).subset (hstart ▸ List.mem_cons_self)
    have hfree := h [] (inner ++ rest) rfl
    rw [Text.trimStart_append hmem hblank, hstart] at hfree
    rw [Text.trim, hstart, Text.trimEnd_cons hblank] at hpath
    exact Bool.false_ne_true (hfree.symm.trans hpath)

/-- What becomes of a caret and the text after it: with a caret that waits with text after it the
first is a pair, and otherwise it starts anew. -/
def expandCaret [Regex.Compiler] (document : Json) (waiting : Caret) (rest : List Char) :
    Except ResolutionError (List Char) :=
  if waiting = .followed then (expandText document rest).map ('^' :: ·)
  else expandText document ('^' :: rest)

/-- A text without paths stays as it is, and its part in what follows is the caret that it leaves
open. -/
theorem expandText_append [Regex.Compiler] (h : IsPathFree u) (rest : List Char) :
    expandText document (u ++ '^' :: rest) =
      (expandCaret document (openCaret u) rest).map (u ++ ·) := by
  -- the induction is on the length, since a pair is taken as a whole
  induction hn : u.length using Nat.strongRecOn generalizing u with
  | ind n ih =>
    subst hn
    have hstep : ∀ front more : List Char, front ≠ [] → u = front ++ more →
        openCaret u = openCaret more →
        expandText document (u ++ '^' :: rest) =
          (expandText document (more ++ '^' :: rest)).map (front ++ ·) →
        expandText document (u ++ '^' :: rest) =
          (expandCaret document (openCaret u) rest).map (u ++ ·) := by
      rintro front more hfront rfl hopen hexpand
      have hlength := List.length_pos_iff.2 hfront
      rw [hexpand, hopen, ih more.length (by rw [List.length_append]; omega)
        (h.of_suffix (List.suffix_append front more)) rfl]
      exact map_append_map front more _
    cases u with
    | nil => exact (map_nil_append _).symm
    | cons c cs =>
      by_cases hc : c = '^'
      · subst hc
        by_cases hmem : '^' ∈ cs
        · obtain ⟨inner, more, rfl, hinner⟩ := List.eq_append_cons_of_mem hmem
          by_cases hne : inner = []
          · subst hne
            exact hstep ['^'] _ (by simp) rfl rfl (expandText_carets _)
          · refine hstep ('^' :: inner ++ ['^']) more (by simp) (by simp) ?_ ?_
            · rw [openCaret_caret_append hne hinner]
              rfl
            · have hpair := expandText_pair hne hinner document (more ++ '^' :: rest)
              rw [if_neg (by simp [h.not_isPathText])] at hpair
              simpa using hpair
        · by_cases hne : cs = []
          · subst hne
            exact expandText_carets rest
          · -- the text after the caret keeps it open
            have hopen := openCaret_caret_append hne hmem []
            rw [List.append_nil, List.foldl_nil] at hopen
            have hwhole : IsPathFree ('^' :: (cs ++ [])) := by rwa [List.append_nil]
            have hpath : isPathText (Text.trim cs) = false := hwhole.not_isPathText
            have hpair := expandText_pair hne hmem document rest
            rw [if_neg (by simp [hpath])] at hpair
            rw [hopen, expandCaret, if_pos rfl, List.cons_append, hpair]
            exact (map_append_map ('^' :: cs) ['^'] _).symm
      · exact hstep [c] _ (by simp) rfl (by simp [openCaret, Caret.step, hc])
          (expandText_cons hc _)

/-! ## A path after a text -/

/-- The template with a path in its place: between two texts, the first as it is and the second
expanded, stands the one value that the path selects. -/
def inPlace [Regex.Compiler] (document : Json) (u e : String) (p : Path) (w : String) :
    Except ResolutionError String :=
  match p.select document with
  | [] => (expand w document).map (u ++ ·)
  | [v] => (expand w document).map (u ++ v.display ++ ·)
  | vs => .error (.multipleMatches (Text.trimmed e) vs.length)

/-- Whether a text leaves a caret open, with text after it. -/
def LeavesOpen (u : String) : Prop :=
  openCaret u.toList = .followed

instance (u : String) : Decidable (LeavesOpen u) :=
  inferInstanceAs (Decidable (_ = _))

theorem pathValue_of_read [Regex.Compiler] {expression : String} {p : Path}
    (hp : Path.read expression = .ok p) (document : Json) :
    pathValue document expression =
      match p.select document with
      | [] => .ok []
      | [v] => .ok v.display.toList
      | vs => .error (.multipleMatches expression vs.length) := by
  have hparse : Path.parse expression = .ok p := by
    rw [Path.parse, hp]
    rfl
  rw [pathValue, hparse]
  show (match p.select document with
    | [] => pure []
    | [v] => pure v.display.toList
    | vs => throw (ResolutionError.multipleMatches expression vs.length)) = _
  rcases p.select document with - | ⟨v, - | ⟨w, vs⟩⟩ <;> rfl

theorem toList_template (u e w : String) :
    (u ++ "^" ++ e ++ "^" ++ w).toList =
      u.toList ++ '^' :: (e.toList ++ '^' :: w.toList) := by
  simp

section Paths

variable {u e : String} {p : Path} (hu : IsPathFree u.toList) (he : '^' ∉ e.toList)
include hu he

theorem expand_of_leavesOpen [Regex.Compiler] (hopen : LeavesOpen u) (w : String)
    (document : Json) :
    expand (u ++ "^" ++ e ++ "^" ++ w) document =
      (expand ("^" ++ w) document).map (u ++ "^" ++ e ++ ·) := by
  have hexpand : expandText document (u.toList ++ '^' :: (e.toList ++ '^' :: w.toList)) =
      (expandText document ('^' :: w.toList)).map (u.toList ++ ['^'] ++ e.toList ++ ·) := by
    rw [expandText_append hu, show openCaret u.toList = _ from hopen, expandCaret, if_pos rfl,
      expandText_append_of_notMem he]
    exact (congrArg _ (map_append_map ['^'] _ _)).trans
      ((map_append_map _ _ _).trans (by rw [List.append_assoc]))
  have hrest : ("^" ++ w).toList = '^' :: w.toList := by simp
  rw [expand, toList_template, hexpand, expand, hrest]
  cases expandText document ('^' :: w.toList) with
  | error x => rfl
  | ok x => simp [Except.map, String.ofList_append, String.append_assoc]

theorem expand_of_not_leavesOpen [Regex.Compiler] (hsign : isPathText (Text.trim e.toList) = true)
    (hp : Path.read (Text.trimmed e) = .ok p) (hopen : ¬ LeavesOpen u) (w : String)
    (document : Json) :
    expand (u ++ "^" ++ e ++ "^" ++ w) document = inPlace document u e p w := by
  have hne : e.toList ≠ [] := by
    intro hnil
    rw [hnil] at hsign
    cases hsign
  have hopen' : openCaret u.toList ≠ .followed := hopen
  have hexpand : expandText document (u.toList ++ '^' :: (e.toList ++ '^' :: w.toList)) =
      (pathValue document (Text.trimmed e) >>= fun value =>
        (expandText document w.toList).map (value ++ ·)).map (u.toList ++ ·) := by
    rw [expandText_append hu, expandCaret, if_neg hopen', expandText_pair hne he, if_pos hsign]
    rfl
  rw [expand, toList_template, hexpand, pathValue_of_read hp, inPlace, expand]
  -- the path selects nothing, one value, or several
  rcases p.select document with - | ⟨v, - | ⟨v', vs⟩⟩
  · cases expandText document w.toList with
    | error x => rfl
    | ok x => simp [Except.map, bind, Except.bind, String.ofList_append]
  · cases expandText document w.toList with
    | error x => rfl
    | ok x => simp [Except.map, bind, Except.bind, String.ofList_append, String.append_assoc]
  · rfl

/-- A path between carets is replaced in its place, after a text without paths and before any other,
just if the text leaves no caret open with text after it. Otherwise it stays as it is, and the caret
after it starts anew. -/
theorem expand_path_iff [Regex.Compiler] (hsign : isPathText (Text.trim e.toList) = true)
    (hp : Path.read (Text.trimmed e) = .ok p) :
    ((∀ w document, expand (u ++ "^" ++ e ++ "^" ++ w) document = inPlace document u e p w) ↔
        ¬ LeavesOpen u) ∧
      (LeavesOpen u → ∀ w document, expand (u ++ "^" ++ e ++ "^" ++ w) document =
        (expand ("^" ++ w) document).map (u ++ "^" ++ e ++ ·)) := by
  refine ⟨⟨fun h hopen => ?_, expand_of_not_leavesOpen hu he hsign hp⟩, expand_of_leavesOpen hu he⟩
  -- in a document without members the path selects too little to stand for its own text
  have hall := (h "" .null).symm.trans (expand_of_leavesOpen hu he hopen "" .null)
  rw [expand_caret, inPlace, expand_empty] at hall
  have hnull : Json.null.display = "null" := rfl
  rcases p.select_null with hselect | hselect
  all_goals
    rw [hselect] at hall
    have htexts := congrArg String.toList (Except.ok.inj hall)
    simp [hnull] at htexts

end Paths

/-- The path of the member `name`. -/
theorem read_name [Regex.Compiler] :
    Path.read "$.name" = .ok ⟨"$.name", .document, [.child "name"]⟩ := by
  have hsegments : Path.AreSegments Path.route ('.' :: ['n', 'a', 'm', 'e'])
      [.child (String.ofList ['n', 'a', 'm', 'e'])] :=
    Path.areSegments_child (by decide) (by decide) (by decide)
  exact Path.read_eq_ok_iff.2 ⟨rfl, .document hsegments⟩

/-- A pair of anchors before it does not hide a path. -/
theorem expand_path_paired :
    IsPathFree "/^a|^b/ ".toList ∧ '^' ∉ " $.name ".toList ∧ ¬ LeavesOpen "/^a|^b/ " ∧
      ∀ w document, expand ("/^a|^b/ " ++ "^" ++ " $.name " ++ "^" ++ w) document =
        inPlace document "/^a|^b/ " " $.name " ⟨"$.name", .document, [.child "name"]⟩ w := by
  have hfree : IsPathFree "/^a|^b/ ".toList := by decide
  have hcarets : '^' ∉ " $.name ".toList := by decide
  have hclosed : ¬ LeavesOpen "/^a|^b/ " := by decide
  have hread : Path.read (Text.trimmed " $.name ") = .ok ⟨"$.name", .document, [.child "name"]⟩ :=
    read_name
  exact ⟨hfree, hcarets, hclosed, (expand_path_iff hfree hcarets rfl hread).1.2 hclosed⟩

/-- An anchor before it hides a path. -/
theorem not_expand_path :
    ¬ ∀ (u e w : String) (p : Path) (document : Json), IsPathFree u.toList → '^' ∉ e.toList →
      isPathText (Text.trim e.toList) = true → Path.read (Text.trimmed e) = .ok p →
        expand (u ++ "^" ++ e ++ "^" ++ w) document = inPlace document u e p w := by
  intro h
  have hfree : IsPathFree "^abc".toList := by decide
  have hcarets : '^' ∉ "$.name".toList := by decide
  have hplace := h _ _ "" _ (.obj [("name", .str "x")]) hfree hcarets rfl read_name
  have hselect : Path.select ⟨"$.name", .document, [.child "name"]⟩ (.obj [("name", .str "x")]) =
      [.str "x"] := rfl
  rw [expand_of_leavesOpen hfree hcarets (by decide), expand_caret, inPlace, hselect,
    expand_empty] at hplace
  exact absurd (Except.ok.inj hplace) (by decide)

end Template

end Mooring
