import Mooring.Proofs.Path.Brackets
import Mooring.Proofs.Path.Nesting
import Mooring.Proofs.Text.Blank

set_option autoImplicit false

/-!
# Filters that the scan passes over

The scan for the bracket that closes reads a filter as brackets and quotes, and knows no tokens. It
passes over the paths that are read, since the same scan has cut their brackets, and over quoted
texts, whose escapes it shares. Regular expressions mean nothing to it: whether it passes over one
depends on the quotes and brackets in it, and on nothing else that is written in them
(`cutRegex_spec`). The brackets of lists are counted by the scan as the grammar nests them, so it
passes over a filter as soon as it passes over each of its regular expressions
(`passes_of_condition`).
-/

namespace Mooring.Path

variable {c : Char} {cs rest : List Char} {t : Token} {ts : List Token}

/-! ## Paths -/

theorem isPlain_of_isBlank (h : Text.isBlank c = true) : IsPlain c :=
  isPlain_of (by decide) (by decide) (by decide) (by decide) h

theorem isPlain_of_isNamePart (h : isNamePart c = true) : IsPlain c :=
  isPlain_of (by decide) (by decide) (by decide) (by decide) h

theorem AreSteps.passes {found : List Step} (h : AreSteps cs found) : Passes cs := by
  have hname : ∀ {name : List Char}, (∀ c ∈ name, isNamePart c = true) → Passes name :=
    fun h => passes_of_forall fun c hc => isPlain_of_isNamePart (h c hc)
  induction h with
  | nil => rfl
  | descendant _ h _ _ ih =>
    rw [passes_cons_iff (by decide), passes_cons_iff (by decide)]
    exact (hname h).append ih
  | wildcard _ ih =>
    rw [passes_cons_iff (by decide), passes_cons_iff (by decide)]
    exact ih
  | child _ _ h _ _ ih =>
    rw [passes_cons_iff (by decide)]
    exact (hname h).append ih
  | @bracket cs selector rest _ hcut _ ih =>
    obtain ⟨rfl, hpasses⟩ := cutBracket_eq_some_iff.1 hcut
    have hsplit : '[' :: (selector ++ ']' :: rest) = '[' :: selector ++ [']'] ++ rest := by simp
    rw [hsplit]
    exact hpasses.bracketed.append ih

theorem IsRoute.passes [Regex.Compiler] {routeOf : RouteReader} {r : Route}
    (h : IsRoute routeOf cs r) : Passes cs := by
  cases h with
  | document h =>
    obtain ⟨found, hfound, -⟩ := h
    exact (passes_cons_iff (by decide)).2 hfound.passes
  | current h =>
    obtain ⟨found, hfound, -⟩ := h
    exact (passes_cons_iff (by decide)).2 hfound.passes
  | named _ _ _ hname _ h =>
    obtain ⟨found, hfound, -⟩ := h
    exact (passes_of_forall fun c hc => isPlain_of_isNamePart (hname c hc)).append hfound.passes

/-- The scan passes over the text of every path. -/
theorem passes_of_route [Regex.Compiler] {r : Route} (h : route cs = .ok r) : Passes cs := by
  obtain ⟨before, after, hcs, hbefore, hafter⟩ := Text.exists_eq_append_trim cs
  rw [hcs]
  have hblanks : ∀ {blanks : List Char}, (∀ c ∈ blanks, Text.isBlank c = true) → Passes blanks :=
    fun h => passes_of_forall fun c hc => isPlain_of_isBlank (h c hc)
  exact ((hblanks hbefore).append (route_eq_ok_iff.1 h).passes).append (hblanks hafter)

theorem cutPath_append (depth : Nat) (quote : Option Char) (cs : List Char) :
    (cutPath depth quote cs).1 ++ (cutPath depth quote cs).2 = cs := by
  fun_induction cutPath depth quote cs <;> simp_all [consFirst]

/-! ## Quoted texts and regular expressions -/

/-- A quoted text leads out of its quote. -/
theorem cutText_spec {q : Quote} {text : List Char} (h : cutText q cs = some (text, rest)) :
    ∃ written, cs = written ++ rest ∧ (Scan.inside 0 q).run written = some (.outside 0) := by
  have hslash : q.1 ≠ '\\' := fun he => absurd q.2 (by rw [he]; decide)
  fun_induction cutText q.1 cs generalizing text with
  | case1 => cases h
  | case2 c cs ih =>
    obtain ⟨⟨text', rest'⟩, hcut, he⟩ := Option.map_eq_some_iff.1 h
    cases he
    obtain ⟨written, rfl, hrun⟩ := ih hcut
    exact ⟨'\\' :: c :: written, rfl, hrun⟩
  | case3 cs =>
    cases h
    refine ⟨[q.1], rfl, ?_⟩
    rw [Scan.run_cons, Scan.step_inside, if_neg hslash, if_pos rfl]
    rfl
  | case4 c cs hne hquote ih =>
    obtain ⟨⟨text', rest'⟩, hcut, he⟩ := Option.map_eq_some_iff.1 h
    cases he
    obtain ⟨written, rfl, hrun⟩ := ih hcut
    refine ⟨c :: written, rfl, ?_⟩
    -- a backslash would be the last character, and no quote would follow
    have hc : c ≠ '\\' := by
      rintro rfl
      cases hall : written ++ rest' with
      | nil =>
        rw [hall] at hcut
        cases hcut
      | cons d ds => exact hne d ds rfl hall
    rw [Scan.run_cons, Scan.step_inside, if_neg hc, if_neg hquote]
    exact hrun

/-- A backslash before a slash makes no difference to the scan. -/
theorem Scan.step_escaped_slash (s : Scan) : ((s.step '\\').bind fun t => t.step '/') = s.step '/' := by
  cases s with
  | outside depth => rfl
  | inside depth q =>
    have hq : '/' ≠ q.1 := fun he => absurd q.2 (by rw [← he]; decide)
    rw [Scan.step_inside, Scan.step_inside, if_pos rfl, if_neg (by decide), if_neg hq]
    rfl
  | escaped depth q =>
    have hq : '/' ≠ q.1 := fun he => absurd q.2 (by rw [← he]; decide)
    show (Scan.inside depth q).step '/' = some (Scan.inside depth q)
    rw [Scan.step_inside, if_neg (by decide), if_neg hq]

/-- The scan stands after a regular expression as it is written where it would stand after the
expression itself. -/
theorem cutRegex_spec {pattern : List Char} (h : cutRegex cs = some (pattern, rest)) :
    ∃ written, cs = written ++ '/' :: rest ∧ ∀ s : Scan, s.run written = s.run pattern := by
  fun_induction cutRegex cs generalizing pattern with
  | case1 => cases h
  | case2 cs ih =>
    obtain ⟨⟨pattern', rest'⟩, hcut, he⟩ := Option.map_eq_some_iff.1 h
    cases he
    obtain ⟨written, rfl, hrun⟩ := ih hcut
    -- the backslash is written and is no part of the pattern
    refine ⟨'\\' :: '/' :: written, rfl, fun s => ?_⟩
    rw [Scan.run_cons, Scan.run_cons, ← Scan.step_escaped_slash, Option.bind_assoc]
    simp only [Scan.run_cons, hrun]
  | case3 cs =>
    cases h
    exact ⟨[], rfl, fun s => rfl⟩
  | case4 c cs _ _ ih =>
    obtain ⟨⟨pattern', rest'⟩, hcut, he⟩ := Option.map_eq_some_iff.1 h
    cases he
    obtain ⟨written, rfl, hrun⟩ := ih hcut
    exact ⟨c :: written, rfl, fun s => by simp only [Scan.run_cons, hrun]⟩

/-! ## Tokens -/

/-- What the text of a token is to the scan: the brackets of lists lead in and out, and all else is
passed over, a regular expression if the scan passes over its pattern. -/
def Token.IsWritten : Token → List Char → Prop
  | .path cs, written => written = cs
  | .openBracket, written => written = ['[']
  | .closeBracket, written => written = [']']
  | .regex pattern, written => Passes pattern.toList → Passes written
  | _, written => Passes written

theorem isWritten_of_punctuation? {n : Nat} (h : punctuation? (c :: cs) = some (t, n)) :
    ∃ written, c :: cs = written ++ cs.drop (n - 1) ∧ t.IsWritten written := by
  unfold punctuation? at h
  split at h
  all_goals
    cases h <;> next he =>
      cases he
      first
      | exact ⟨[_], rfl, rfl⟩
      | exact ⟨[_, _], rfl, rfl⟩

theorem isWritten_of_flagged {pattern written flags : List Char}
    (h : flagged pattern flags = .ok t) (hwritten : Passes pattern → Passes written) :
    t.IsWritten written := by
  unfold flagged at h
  split at h
  · cases h
  · cases h
    intro hpasses
    rw [String.toList_ofList] at hpasses
    split_ifs at hpasses
    · exact hwritten hpasses
    -- the flag is put before the pattern and is written after it
    · have hflag : Passes "(?i)".toList := rfl
      exact hwritten (hflag.of_append hpasses)

theorem isWritten_of_wordToken? {word : List Char} (h : wordToken? (String.ofList word) = some t) :
    t.IsWritten word := by
  obtain ⟨s, rfl⟩ : ∃ s : String, word = s.toList := ⟨String.ofList word, by simp⟩
  rw [String.ofList_toList] at h
  unfold wordToken? at h
  split at h
  all_goals
    cases h
    try rfl

theorem passes_takeWhile {p : Char → Bool} (h : ∀ c, p c = true → IsPlain c) (cs : List Char) :
    Passes (cs.takeWhile p) :=
  passes_of_forall fun c hc => h c (List.all_eq_true.1 List.all_takeWhile c hc)

theorem IsToken.exists_written (h : IsToken c cs t rest) :
    ∃ written, c :: cs = written ++ rest ∧ t.IsWritten written := by
  cases h with
  | path hc => exact ⟨_, by rw [List.cons_append, cutPath_append], rfl⟩
  | text hc hcut =>
    obtain ⟨written, rfl, hrun⟩ := cutText_spec (q := ⟨c, hc⟩) hcut
    refine ⟨c :: written, rfl, ?_⟩
    show (Scan.outside 0).run (c :: written) = some (.outside 0)
    rw [Scan.run_cons, Scan.step_outside, dif_pos hc]
    exact hrun
  | @regex _ pattern rest _ hcut hflags =>
    obtain ⟨written, rfl, hrun⟩ := cutRegex_spec hcut
    refine ⟨'/' :: (written ++ '/' :: rest.takeWhile Char.isAlpha), ?_,
      isWritten_of_flagged hflags fun hpasses => ?_⟩
    · simp
    · have hwritten : Passes written := (hrun _).trans hpasses
      have hflags := passes_takeWhile (p := Char.isAlpha)
        (fun _ => isPlain_of (by decide) (by decide) (by decide) (by decide)) rest
      rw [passes_cons_iff (by decide)]
      exact hwritten.append ((passes_cons_iff (by decide)).2 hflags)
  | punctuation _ h => exact isWritten_of_punctuation? h
  | number _ _ hdigit _ =>
    refine ⟨c :: cs.takeWhile isNumberPart, by simp, ?_⟩
    have hc : IsPlain c := by
      rcases hdigit with rfl | hdigit
      · decide
      · exact isPlain_of (by decide) (by decide) (by decide) (by decide) hdigit
    have hmore := passes_takeWhile (p := isNumberPart)
      (fun _ => isPlain_of (by decide) (by decide) (by decide) (by decide)) cs
    exact (passes_cons_iff hc).2 hmore
  | word _ _ _ _ hword => exact ⟨_, by simp, isWritten_of_wordToken? hword⟩

/-! ## The brackets of lists -/

/-- How many brackets are open after tokens, unless one of them closes a bracket that is not. -/
def depthAfter : Nat → List Token → Option Nat
  | depth, [] => some depth
  | depth, .openBracket :: ts => depthAfter (depth + 1) ts
  | depth, .closeBracket :: ts =>
    match depth with
    | 0 => none
    | depth + 1 => depthAfter depth ts
  | depth, _ :: ts => depthAfter depth ts

/-- Whether a token is neither a path nor a bracket. -/
def Token.IsNeutral : Token → Prop
  | .path _ | .openBracket | .closeBracket => False
  | _ => True

/-- Whether tokens close the brackets they open, and all their paths are read. -/
structure Balanced (routes : RouteRelation) (ts : List Token) : Prop where
  paths : ∀ text, .path text ∈ ts → ∃ r, routes text r
  depth : ∀ depth us, depthAfter depth (ts ++ us) = depthAfter depth us

section Balanced

variable {routes : RouteRelation} {us : List Token}

theorem balanced_nil : Balanced routes [] :=
  ⟨by simp, fun _ _ => rfl⟩

theorem Balanced.append (ht : Balanced routes ts) (hu : Balanced routes us) :
    Balanced routes (ts ++ us) where
  paths text hmem := (List.mem_append.1 hmem).elim (ht.paths text) (hu.paths text)
  depth depth vs := by rw [List.append_assoc, ht.depth, hu.depth]

theorem Balanced.bracketed (h : Balanced routes ts) :
    Balanced routes (.openBracket :: ts ++ [.closeBracket]) where
  paths text hmem := h.paths text (by simpa using hmem)
  depth depth us := by
    rw [List.append_assoc, List.cons_append]
    show depthAfter (depth + 1) _ = _
    rw [h.depth]
    rfl

theorem balanced_path {text : List Char} {r : Route} (h : routes text r) :
    Balanced routes [.path text] where
  paths text' hmem := by
    cases List.mem_singleton.1 hmem
    exact ⟨r, h⟩
  depth _ _ := rfl

theorem balanced_singleton (h : t.IsNeutral) : Balanced routes [t] where
  paths text hmem := by
    cases List.mem_singleton.1 hmem
    exact h.elim
  depth _ _ := by
    cases t with
    | openBracket => exact h.elim
    | closeBracket => exact h.elim
    | _ => rfl

theorem Balanced.intercalate {tss : List (List Token)} (h : ∀ ts ∈ tss, Balanced routes ts) :
    Balanced routes ([Token.comma].intercalate tss) := by
  have hcomma : Balanced routes [.comma] := balanced_singleton trivial
  induction tss with
  | nil => exact balanced_nil
  | cons ts tss ih =>
    have hts := h ts List.mem_cons_self
    cases tss with
    | nil => rwa [List.intercalate_singleton]
    | cons us tss =>
      rw [List.intercalate_cons_cons]
      exact (hts.append hcomma).append (ih fun vs hvs => h vs (List.mem_cons_of_mem ts hvs))

theorem IsLiteral.balanced {v : Json} (h : IsLiteral ts v) : Balanced routes ts := by
  -- of all literals only a list has brackets, and those are its first and last tokens
  induction h with
  | list items h ih =>
    refine (Balanced.intercalate fun ts hts => ?_).bracketed
    obtain ⟨i, hi, rfl⟩ := List.mem_map.1 hts
    exact ih i hi
  | _ => exact balanced_singleton trivial

theorem IsOperand.balanced [Regex.Compiler] {o : Operand} (h : IsOperand routes ts o) :
    Balanced routes ts := by
  cases h with
  | path h => exact balanced_path h
  | literal h => exact h.balanced
  | regex h => exact balanced_singleton trivial

theorem IsRightSide.balanced [Regex.Compiler] {op : Comparison} {o : Operand}
    (h : IsRightSide routes op ts o) : Balanced routes ts := by
  cases h with
  | plain hop h => exact h.balanced
  | _ => exact balanced_singleton trivial

/-- The grammar closes every bracket it opens. -/
theorem Derives.balanced [Regex.Compiler] {level : Level} {a : Condition}
    (h : Derives routes level ts a) : Balanced routes ts := by
  induction h with
  | not h ih => exact (balanced_singleton (t := .not) trivial).append ih
  | group h ih =>
    have hopen : Balanced routes [.openParen] := balanced_singleton trivial
    exact (hopen.append ih).append (balanced_singleton trivial)
  | @compare ts us left right op hl hr =>
    have hop : Balanced routes [.op op] := balanced_singleton trivial
    exact hl.balanced.append (hop.append hr.balanced)
  | selects h => exact balanced_path h
  | conjunct h ih => exact ih
  | and ha hb iha ihb =>
    exact iha.append ((balanced_singleton (t := .and) trivial).append ihb)
  | disjunct h ih => exact ih
  | or ha hb iha ihb =>
    exact iha.append ((balanced_singleton (t := .or) trivial).append ihb)

end Balanced

/-! ## Filters -/

/-- The scan is after a text as deep in brackets as the tokens of the text lead. -/
theorem AreTokens.run (h : AreTokens cs ts) (hpaths : ∀ text, .path text ∈ ts → Passes text)
    (hregexes : ∀ pattern, .regex pattern ∈ ts → Passes pattern.toList) {depth depth' : Nat}
    (hdepth : depthAfter depth ts = some depth') :
    (Scan.outside depth).run cs = some (.outside depth') := by
  induction h generalizing depth with
  | nil =>
    cases hdepth
    rfl
  | blank hc _ ih =>
    rw [Scan.run_cons, Scan.step_plain (isPlain_of_isBlank hc)]
    exact ih hpaths hregexes hdepth
  | @token c cs rest t ts _ ht _ ih =>
    obtain ⟨written, hcs, hwritten⟩ := ht.exists_written
    have hmore : ∀ {depth}, depthAfter depth ts = some depth' →
        (Scan.outside depth).run rest = some (.outside depth') :=
      ih (fun text hmem => hpaths text (List.mem_cons_of_mem t hmem))
        fun pattern hmem => hregexes pattern (List.mem_cons_of_mem t hmem)
    -- all tokens but the brackets of lists leave the scan as deep as it was
    have hpasses : Passes written → depthAfter depth ts = some depth' →
        (Scan.outside depth).run (c :: cs) = some (.outside depth') := by
      intro hpasses hdepth
      rw [hcs, Scan.run_append, hpasses.run]
      exact hmore hdepth
    cases t with
    | openBracket =>
      cases hwritten
      rw [hcs]
      exact hmore hdepth
    | closeBracket =>
      cases hwritten
      rw [hcs]
      cases depth with
      | zero => cases hdepth
      | succ depth => exact hmore hdepth
    | path text =>
      cases hwritten
      exact hpasses (hpaths _ List.mem_cons_self) hdepth
    | regex pattern => exact hpasses (hwritten (hregexes pattern List.mem_cons_self)) hdepth
    | _ => exact hpasses hwritten hdepth

/-- The scan passes over a filter if it passes over each of its regular expressions. -/
theorem passes_of_condition [Regex.Compiler] {a : Condition} (h : condition cs = .ok a)
    (hts : AreTokens cs ts)
    (hregexes : ∀ pattern, .regex pattern ∈ ts → Passes pattern.toList) : Passes cs := by
  obtain ⟨ts', hts', hderives⟩ := condition_eq_ok_iff.1 h
  obtain rfl := hts.eq hts'
  have hbalanced := hderives.balanced
  refine hts.run (fun text hmem => ?_) hregexes ?_
  · obtain ⟨r, hr⟩ := hbalanced.paths text hmem
    exact passes_of_route hr
  · simpa [depthAfter] using hbalanced.depth 0 []

end Mooring.Path
