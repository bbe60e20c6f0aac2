import Mooring.Proofs.Path.Concatenation
import Mooring.Proofs.Text.Numeral

set_option autoImplicit false

/-!
# Printed paths

Segments without filters can be written down: a child after a dot, or between quotes in brackets, if
its name is of the kind for that; a descendant after two dots; a wildcard or an index in brackets.
Each piece of text is read as its one segment whatever segments follow it (`Spelling.areSegments`),
so pieces after a path add just their segments to it (`read_append_printed`), and a path that is put
together from pieces is read as the segments that were written (`read_printed`).
-/

namespace Mooring.Path

/-! ## Pieces of a path -/

/-- How a segment without a filter is written; a child has two ways. -/
inductive Spelling where
  | dotted (name : String)
  | quoted (name : String)
  | descendant (name : String)
  | wildcard
  | index (i : Int)
  deriving DecidableEq, Repr

/-- Whether a name stands for itself after a dot: it is not empty, and has no blank and no character
that ends a name. -/
def IsBare (name : String) : Prop :=
  name.toList ≠ [] ∧ ∀ c ∈ name.toList, isNamePart c = true

instance (name : String) : Decidable (IsBare name) :=
  have : Decidable (∀ c ∈ name.toList, isNamePart c = true) := List.decidableBAll _ _
  instDecidableAnd

namespace Spelling

/-- The segment that is written. -/
def segment : Spelling → Segment
  | dotted name | quoted name => .child name
  | descendant name => .descendant name
  | wildcard => .wildcard
  | index i => .index i

/-- The text of a segment. -/
def text : Spelling → String
  | dotted name => "." ++ name
  | quoted name => "['" ++ name ++ "']"
  | descendant name => ".." ++ name
  | wildcard => "[*]"
  | index i => "[" ++ i.repr ++ "]"

/-- Whether a segment may be written like this: a name after one dot does not start with a star, a
name between quotes holds no quote of the kind and no backslash, and an index has 64 bits. -/
def IsLegible : Spelling → Prop
  | dotted name => IsBare name ∧ name.toList.head? ≠ some '*'
  | quoted name => '\'' ∉ name.toList ∧ '\\' ∉ name.toList
  | descendant name => IsBare name
  | wildcard => True
  | index i => -Int.pow 2 63 ≤ i ∧ i < Int.pow 2 63

instance : DecidablePred IsLegible
  | dotted _ => inferInstanceAs (Decidable (IsBare _ ∧ _))
  | quoted _ => inferInstanceAs (Decidable (_ ∧ _))
  | descendant _ => inferInstanceAs (Decidable (IsBare _))
  | wildcard => inferInstanceAs (Decidable True)
  | index _ => inferInstanceAs (Decidable (_ ∧ _))

end Spelling

/-- The text of segments, one after the other. -/
def printed : List Spelling → String
  | [] => ""
  | s :: rest => s.text ++ printed rest

/-! ## What stands in brackets -/

section Brackets

variable {routeOf : RouteReader} {selector : List Char}

/-- A selector that is trimmed, and that the scan passes over, is the segment that it writes. -/
theorem areSegments_bracket [Regex.Compiler] {g : Segment} (hpasses : Passes selector)
    (htrim : Text.trim selector = selector) (hsegment : selectorSegment routeOf selector = .ok g) :
    AreSegments routeOf ('[' :: (selector ++ [']'])) [g] := by
  have hcut : cutBracket 0 none (selector ++ [']']) = some (selector, []) :=
    cutBracket_eq_some_iff.2 ⟨rfl, hpasses⟩
  have hread : Step.segment routeOf (.bracket selector) = .ok g := by
    show selectorSegment routeOf (Text.trim selector) = _
    rw [htrim, hsegment]
  exact ⟨[.bracket selector], .bracket hcut .nil, .cons hread .nil⟩

variable {name : List Char}

/-- The scan stays in a quote up to the next quote of the kind, if no backslash stands before it. -/
theorem Scan.run_inside {q : Quote} (hquote : q.1 ∉ name) (hslash : '\\' ∉ name) (depth : Nat) :
    (Scan.inside depth q).run name = some (.inside depth q) := by
  induction name with
  | nil => rfl
  | cons c cs ih =>
    simp only [List.mem_cons, not_or] at hquote hslash
    have hstep : (Scan.inside depth q).step c = some (.inside depth q) := by
      rw [Scan.step_inside, if_neg (Ne.symm hslash.1), if_neg (Ne.symm hquote.1)]
    rw [Scan.run_cons, hstep]
    exact ih hquote.2 hslash.2

theorem passes_quoted (hquote : '\'' ∉ name) (hslash : '\\' ∉ name) :
    Passes ('\'' :: (name ++ ['\''])) := by
  let q : Quote := ⟨'\'', rfl⟩
  have hinside := Scan.run_inside (q := q) hquote hslash 0
  show (Scan.inside 0 q).run (name ++ ['\'']) = _
  rw [Scan.run_append, hinside]
  rfl

theorem selectorSegment_quoted [Regex.Compiler] (routeOf : RouteReader) (name : List Char) :
    selectorSegment routeOf ('\'' :: (name ++ ['\''])) = .ok (.child (String.ofList name)) := by
  have hname : quotedName? ('\'' :: (name ++ ['\''])) = some name := by
    simp [quotedName?, isQuote]
  unfold selectorSegment
  split
  · next he => cases he
  · next he => cases he
  · rw [hname]

/-- A numeral is no wildcard, no filter and no quoted name. -/
theorem selectorSegment_repr [Regex.Compiler] (routeOf : RouteReader) {i : Int}
    (h : -Int.pow 2 63 ≤ i ∧ i < Int.pow 2 63) :
    selectorSegment routeOf i.repr.toList = .ok (.index i) := by
  have hhead : ∀ c rest, i.repr.toList = c :: rest → c = '-' ∨ c.isDigit = true := by
    intro c rest he
    apply Text.mem_repr (n := i)
    rw [he]
    exact List.mem_cons_self
  have hname : quotedName? i.repr.toList = none := by
    unfold quotedName?
    split
    · next q rest he =>
      have hquote : isQuote q = false := by
        rcases hhead q rest he with rfl | hdigit
        · rfl
        · exact (isPlain_of rfl rfl rfl rfl hdigit).1
      simp [hquote]
    · rfl
  unfold selectorSegment
  split
  · next he => exact absurd (hhead _ _ he) (by decide)
  · next he => exact absurd (hhead _ _ he) (by decide)
  · rw [hname, Text.signedNumber?_repr h]

theorem trim_repr (i : Int) : Text.trim i.repr.toList = i.repr.toList := by
  apply Text.trim_of_forall
  intro c hc
  rcases Text.mem_repr hc with rfl | hdigit
  · decide
  · exact Text.isBlank_of_isDigit hdigit

theorem passes_repr (i : Int) : Passes i.repr.toList := by
  apply passes_of_forall
  intro c hc
  rcases Text.mem_repr hc with rfl | hdigit
  · decide
  · exact isPlain_of rfl rfl rfl rfl hdigit

end Brackets

/-! ## Pieces are segments -/

namespace Spelling

variable {s : Spelling}

/-- A piece is read as the segment that it writes. -/
theorem areSegments [Regex.Compiler] (routeOf : RouteReader) (h : s.IsLegible) :
    AreSegments routeOf s.text.toList [s.segment] := by
  cases s with
  | dotted name =>
    obtain ⟨⟨hne, hname⟩, hstar⟩ := h
    have hchild : AreSegments routeOf _ _ :=
      areSegments_child hne hstar (List.all_eq_true.2 hname)
    rw [String.ofList_toList] at hchild
    simpa [text, segment] using hchild
  | quoted name =>
    obtain ⟨hquote, hslash⟩ := h
    have htrim : Text.trim ('\'' :: (name.toList ++ ['\''])) = '\'' :: (name.toList ++ ['\'']) :=
      Text.trim_cons_concat name.toList (by decide) (by decide)
    have hchild := areSegments_bracket (passes_quoted hquote hslash) htrim
      (selectorSegment_quoted routeOf name.toList)
    rw [String.ofList_toList] at hchild
    simpa [text, segment] using hchild
  | descendant name =>
    obtain ⟨hne, hname⟩ := h
    have hsteps := AreSteps.descendant hne hname endsName_nil .nil
    refine ⟨[.descendant name.toList], by simpa [text] using hsteps, .cons ?_ .nil⟩
    show Except.ok (Segment.descendant (String.ofList name.toList)) = _
    rw [String.ofList_toList]
    rfl
  | wildcard =>
    have hstar : Passes ['*'] := by decide
    exact areSegments_bracket hstar (by decide) rfl
  | index i =>
    have hindex := areSegments_bracket (passes_repr i) (trim_repr i) (selectorSegment_repr routeOf h)
    simpa [text, segment] using hindex

/-- No piece goes on with the name before it. -/
theorem endsName_text (s : Spelling) : EndsName s.text.toList := by
  cases s with
  | dotted name => simpa [text] using endsName_cons (c := '.') rfl
  | quoted name => simpa [text] using endsName_cons (c := '[') rfl
  | descendant name => simpa [text] using endsName_cons (c := '.') rfl
  | wildcard => exact endsName_cons (c := '[') rfl
  | index i => simpa [text] using endsName_cons (c := '[') rfl

/-- No piece ends with a blank. -/
theorem isBlank_getLast?_text (h : s.IsLegible) {c : Char} (hc : s.text.toList.getLast? = some c) :
    Text.isBlank c = false := by
  have hbare : ∀ name, IsBare name → name.toList.getLast? = some c → Text.isBlank c = false := by
    intro name hname hlast
    have hpart := hname.2 c (List.mem_of_getLast? hlast)
    simp only [isNamePart, Bool.and_eq_true, Bool.not_eq_true'] at hpart
    exact hpart.1
  -- a piece ends with the end of its name, or with what closes the bracket
  have hclose : ∀ front close : String, close.toList.getLast? = some ']' →
      (front ++ close).toList.getLast? = some c → Text.isBlank c = false := by
    intro front close hclose hlast
    rw [String.toList_append, List.getLast?_append, hclose] at hlast
    cases hlast
    decide
  cases s with
  | dotted name =>
    rw [text, String.toList_append, List.getLast?_append_of_ne_nil _ h.1.1] at hc
    exact hbare name h.1 hc
  | quoted name => exact hclose _ _ rfl hc
  | descendant name =>
    rw [text, String.toList_append, List.getLast?_append_of_ne_nil _ h.1] at hc
    exact hbare name h hc
  | wildcard => exact hclose "[" "*]" rfl hc
  | index i => exact hclose _ _ rfl hc

end Spelling

/-! ## Printed paths -/

variable {spellings : List Spelling}

theorem endsName_printed (spellings : List Spelling) : EndsName (printed spellings).toList := by
  induction spellings with
  | nil => exact endsName_nil
  | cons s rest ih =>
    rw [printed, String.toList_append]
    exact s.endsName_text.append ih

/-- Printed segments are read as what was printed. -/
theorem areSegments_printed [Regex.Compiler] (routeOf : RouteReader)
    (h : ∀ s ∈ spellings, s.IsLegible) :
    AreSegments routeOf (printed spellings).toList (spellings.map Spelling.segment) := by
  induction spellings with
  | nil => exact ⟨[], .nil, .nil⟩
  | cons s rest ih =>
    simp only [List.forall_mem_cons] at h
    rw [printed, String.toList_append]
    exact (s.areSegments routeOf h.1).append (endsName_printed rest) (ih h.2)

theorem isBlank_getLast?_printed (h : ∀ s ∈ spellings, s.IsLegible) {c : Char}
    (hc : (printed spellings).toList.getLast? = some c) : Text.isBlank c = false := by
  induction spellings with
  | nil => cases hc
  | cons s rest ih =>
    simp only [List.forall_mem_cons] at h
    rw [printed, String.toList_append, List.getLast?_append] at hc
    rcases Option.or_eq_some_iff.1 hc with hrest | ⟨-, hs⟩
    · exact ih h.2 hrest
    · exact s.isBlank_getLast?_text h.1 hs

/-- Segments may be printed after any path that does not end with a blank. -/
theorem read_append_printed [Regex.Compiler] {p : String} {a : Path} (ha : read p = .ok a)
    (hp : ∀ c, p.toList.getLast? = some c → Text.isBlank c = false)
    (h : ∀ s ∈ spellings, s.IsLegible) :
    read (p ++ printed spellings) =
      .ok ⟨p ++ printed spellings, a.root, a.segments ++ spellings.map Spelling.segment⟩ := by
  obtain ⟨-, hroute⟩ := read_eq_ok_iff.1 ha
  obtain ⟨cs, c, hcs⟩ : ∃ cs c, p.toList = cs ++ [c] := by
    refine (List.eq_nil_or_concat' p.toList).resolve_left fun hnil => ?_
    rw [hnil] at hroute
    exact hroute.ne_nil rfl
  have hblank : Text.isBlank c = false := hp c (by simp [hcs])
  have hseam : Text.trim (p ++ printed spellings).toList =
      Text.trim p.toList ++ (printed spellings).toList := by
    rw [String.toList_append, hcs]
    apply Text.trim_append_of_getLast? hblank
    intro d hd
    exact isBlank_getLast?_printed h hd
  rw [read_eq_ok_iff, hseam]
  exact ⟨rfl, hroute.append (endsName_printed spellings) (areSegments_printed route h)⟩

theorem read_document [Regex.Compiler] : read "$" = .ok ⟨"$", .document, []⟩ :=
  read_eq_ok_iff.2 ⟨rfl, .document ⟨[], .nil, .nil⟩⟩

theorem isBlank_getLast?_document (c : Char) (hc : "$".toList.getLast? = some c) :
    Text.isBlank c = false := by
  obtain rfl : '$' = c := Option.some.inj hc
  decide

/-- The text of segments after the sign of the document is read as the path with just those
segments, whatever they are and however many. -/
theorem read_printed [Regex.Compiler] (h : ∀ s ∈ spellings, s.IsLegible) :
    read ("$" ++ printed spellings) =
      .ok ⟨"$" ++ printed spellings, .document, spellings.map Spelling.segment⟩ :=
  read_append_printed read_document isBlank_getLast?_document h

/-- All kinds of segments in one path, with names that look like something else. -/
def variety : List Spelling :=
  [.dotted "scan-type*", .quoted "x].y [\"z", .quoted "", .descendant "*", .wildcard,
    .index (-9223372036854775808), .dotted "$"]

theorem read_printed_variety :
    (∀ s ∈ variety, s.IsLegible) ∧
      read "$.scan-type*['x].y [\"z']['']..*[*][-9223372036854775808].$" =
        .ok ⟨"$.scan-type*['x].y [\"z']['']..*[*][-9223372036854775808].$", .document,
          [.child "scan-type*", .child "x].y [\"z", .child "", .descendant "*", .wildcard,
            .index (-9223372036854775808), .child "$"]⟩ := by
  have hlegible : ∀ s ∈ variety, s.IsLegible := by decide
  have htext : "$" ++ printed variety =
      "$.scan-type*['x].y [\"z']['']..*[*][-9223372036854775808].$" := by decide
  have hread := read_printed hlegible
  rw [htext] at hread
  exact ⟨hlegible, hread⟩

end Mooring.Path
