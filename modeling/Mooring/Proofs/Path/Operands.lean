import Mathlib.Data.List.Chain
import Mooring.Proofs.Path.Concatenation
import Mooring.Proofs.Path.Passing

set_option autoImplicit false

/-!
# Paths as operands of filters

The end of a path inside a filter is found by a scan of its own. It is a machine that reads one
character after the other (`PathScan.step`), and the operand is the text up to the character at
which it stops (`cut_append_eq_iff`). The scan that finds the bracket that closes knows that a
backslash in a quote takes the next character with it, and this one does not. As long as no
backslash stands before a quote the two follow each other through every bracket
(`Scan.run_flat`), so that a path which is read by itself is the same operand before anything
that ends an operand (`tokens_operand`). A quote with a backslash before it leads them apart
(`not_tokens_operand`).
-/

namespace Mooring.Path

/-- Where the scan for the end of a path stands: how many brackets are open, and in which quote it
is, if in any. -/
inductive PathScan where
  | outside (depth : Nat)
  | inside (depth : Nat) (q : Quote)

namespace PathScan

/-- Where the scan stands after a character, unless the path ends before it. -/
def step : PathScan → Char → Option PathScan
  | outside 0, c =>
    if c = '[' then some (outside 1) else if endsPath c then none else some (outside 0)
  | outside (depth + 1), c =>
    if h : isQuote c = true then some (inside (depth + 1) ⟨c, h⟩)
    else if c = '[' then some (outside (depth + 2))
    else if c = ']' then some (outside depth)
    else some (outside (depth + 1))
  | inside depth q, c => if c = q then some (outside depth) else some (inside depth q)

/-- Where the scan stands after a text, unless the path ends in it. -/
def run (s : PathScan) (cs : List Char) : Option PathScan :=
  cs.foldlM step s

variable {s t : PathScan} {c : Char} {cs ds : List Char}

@[simp]
theorem run_nil (s : PathScan) : s.run [] = some s :=
  rfl

@[simp]
theorem run_cons (s : PathScan) (c : Char) (cs : List Char) :
    s.run (c :: cs) = (s.step c).bind fun t => t.run cs :=
  rfl

theorem run_append (s : PathScan) (cs ds : List Char) :
    s.run (cs ++ ds) = (s.run cs).bind fun t => t.run ds :=
  List.foldlM_append

theorem step_bracketed (depth : Nat) (c : Char) :
    (outside (depth + 1)).step c =
      if h : isQuote c = true then some (inside (depth + 1) ⟨c, h⟩)
      else if c = '[' then some (outside (depth + 2))
      else if c = ']' then some (outside depth)
      else some (outside (depth + 1)) :=
  rfl

theorem step_inside (depth : Nat) (q : Quote) (c : Char) :
    (inside depth q).step c = if c = q then some (outside depth) else some (inside depth q) :=
  rfl

/-- A path ends only outside brackets. -/
theorem step_eq_none_iff : s.step c = none ↔ s = outside 0 ∧ endsPath c = true := by
  match s with
  | outside 0 =>
    rw [step]
    by_cases hopen : c = '['
    · subst hopen
      simp [show endsPath '[' = false from rfl]
    · rw [if_neg hopen]
      split_ifs with hends <;> simp [hends]
  | outside (depth + 1) =>
    rw [step_bracketed]
    split_ifs <;> simp
  | inside depth q =>
    rw [step_inside]
    split_ifs <;> simp

/-! ## The operand -/

/-- What the scan cuts off from where it stands, and what follows. -/
def cut : PathScan → List Char → List Char × List Char
  | outside depth, cs => cutPath depth none cs
  | inside depth q, cs => cutPath depth (some q.1) cs

theorem cut_nil (s : PathScan) : s.cut [] = ([], []) := by
  cases s <;> simp only [cut, cutPath]

theorem cut_cons (s : PathScan) (c : Char) (cs : List Char) :
    s.cut (c :: cs) =
      match s.step c with
      | none => ([], c :: cs)
      | some t => consFirst c (t.cut cs) := by
  match s with
  | outside 0 =>
    rw [step]
    simp only [cut, cutPath]
    split_ifs <;> rfl
  | outside (depth + 1) =>
    rw [step_bracketed]
    simp only [cut, cutPath]
    split_ifs <;> rfl
  | inside depth q =>
    rw [step_inside]
    simp only [cut, cutPath]
    split_ifs <;> rfl

/-- The scan stops at once only at the end of the text, or outside brackets before a character that
ends a path. -/
theorem cut_eq_nil_iff :
    s.cut cs = ([], cs) ↔ cs = [] ∨ s = outside 0 ∧ ∃ c ∈ cs.head?, endsPath c = true := by
  cases cs with
  | nil => simp [cut_nil]
  | cons c cs =>
    rw [cut_cons]
    split
    · next hnone =>
      obtain ⟨rfl, hends⟩ := step_eq_none_iff.1 hnone
      simp [hends]
    · next t hstep =>
      have hgoes : ¬ (s = outside 0 ∧ endsPath c = true) := by
        rw [← step_eq_none_iff, hstep]
        simp
      simpa [consFirst] using hgoes

/-- The scan cuts off a text just if it runs through it and stops there. -/
theorem cut_append_eq_iff :
    s.cut (cs ++ ds) = (cs, ds) ↔ ∃ t, s.run cs = some t ∧ t.cut ds = ([], ds) := by
  induction cs generalizing s with
  | nil => simp
  | cons c cs ih =>
    rw [List.cons_append, cut_cons, run_cons]
    cases hstep : s.step c with
    | none => simp
    | some t =>
      have hfirst : consFirst c (t.cut (cs ++ ds)) = (c :: cs, ds) ↔ t.cut (cs ++ ds) = (cs, ds) := by
        simp [consFirst, Prod.ext_iff]
      exact hfirst.trans ih

end PathScan

variable {c : Char} {cs ds : List Char} {ts : List Token}

/-- Whether an operand ends between two texts: the scan runs through the first, and stops at the
second. -/
def EndsBetween (cs ds : List Char) : Prop :=
  ∃ s, (PathScan.outside 0).run cs = some s ∧
    (ds = [] ∨ s = .outside 0 ∧ ∃ c ∈ ds.head?, endsPath c = true)

theorem cutPath_append_eq_iff : cutPath 0 none (cs ++ ds) = (cs, ds) ↔ EndsBetween cs ds := by
  show (PathScan.outside 0).cut (cs ++ ds) = (cs, ds) ↔ _
  simp only [PathScan.cut_append_eq_iff, PathScan.cut_eq_nil_iff, EndsBetween]

/-- A path and the tokens after it are the tokens of a text just if the path ends between the two
parts of the text. -/
theorem areTokens_path_iff (hc : c = '@' ∨ c = '$') (hds : AreTokens ds ts) :
    AreTokens (c :: (cs ++ ds)) (.path (c :: cs) :: ts) ↔ EndsBetween cs ds := by
  have hblank : Text.isBlank c = false := by rcases hc with rfl | rfl <;> decide
  rw [← cutPath_append_eq_iff]
  constructor
  · intro h
    cases h with
    | blank hc' => exact absurd hc' (by simp [hblank])
    | token _ ht _ =>
      obtain ⟨-, htext, -⟩ := ht.eq_path
      have hfirst : (cutPath 0 none (cs ++ ds)).1 = cs := (List.cons.inj htext).2.symm
      -- what is cut off and what follows make up the whole text
      have hall := cutPath_append 0 none (cs ++ ds)
      rw [hfirst] at hall
      exact Prod.ext hfirst (List.append_cancel_left hall)
  · intro hcut
    have hpath : IsToken c (cs ++ ds) _ _ := .path hc
    rw [hcut] at hpath
    exact .token hblank hpath hds

/-! ## Two scans of one bracket -/

/-- Whether no quote in a text has a backslash before it. -/
def QuotesAreBare (cs : List Char) : Prop :=
  cs.IsChain fun c d => c = '\\' → isQuote d = false

instance (cs : List Char) : Decidable (QuotesAreBare cs) :=
  inferInstanceAs (Decidable (List.IsChain _ cs))

theorem QuotesAreBare.of_infix (h : QuotesAreBare cs) (hpart : ds <:+: cs) : QuotesAreBare ds :=
  List.IsChain.infix h hpart

namespace Scan

variable {s t : Scan}

/-- Where the other scan stands in the same bracket. -/
def flat : Scan → PathScan
  | outside depth => .outside (depth + 1)
  | inside depth q => .inside (depth + 1) q
  | escaped depth q => .inside (depth + 1) q

/-- The backslash that the scan has read before the character to come. -/
def pending : Scan → List Char
  | escaped _ _ => ['\\']
  | _ => []

theorem step_flat (h : s.step c = some t) (hbare : QuotesAreBare (s.pending ++ [c])) :
    s.flat.step c = some t.flat := by
  cases s with
  | outside depth =>
    rw [step_outside] at h
    rw [flat, PathScan.step_bracketed]
    split_ifs at h ⊢
    · cases h
      rfl
    · cases h
      rfl
    · cases depth with
      | zero => cases h
      | succ depth =>
        cases h
        rfl
    · cases h
      rfl
  | inside depth q =>
    have hslash : '\\' ≠ q.1 := fun he => absurd q.2 (by rw [← he]; decide)
    rw [step_inside] at h
    rw [flat, PathScan.step_inside]
    split_ifs at h with hc hquote
    · cases h
      rw [hc, if_neg hslash]
      rfl
    · cases h
      rw [if_pos hquote]
      rfl
    · cases h
      rw [if_neg hquote]
      rfl
  | escaped depth q =>
    cases h
    -- after a backslash no quote follows, so the two scans agree though one ignores backslashes
    have hquote : c ≠ q.1 := by
      rintro rfl
      have hno := (List.isChain_cons_cons.1 hbare).1 rfl
      rw [q.2] at hno
      cases hno
    show (PathScan.inside (depth + 1) q).step c = _
    rw [PathScan.step_inside, if_neg hquote]
    rfl

theorem pending_append_suffix (h : s.step c = some t) (cs : List Char) :
    t.pending ++ cs <:+ c :: cs := by
  cases t with
  | escaped depth q =>
    -- only a backslash leads there
    have hslash : c = '\\' := by
      cases s with
      | outside d =>
        rw [step_outside] at h
        cases d <;> simp only [closed] at h <;> split_ifs at h <;> cases h
      | inside d q' =>
        rw [step_inside] at h
        split_ifs at h with hc <;> first | exact hc | cases h
      | escaped d q' => cases h
    rw [hslash]
    exact List.suffix_rfl
  | _ => exact List.suffix_cons c cs

theorem run_flat (h : s.run cs = some t) (hbare : QuotesAreBare (s.pending ++ cs)) :
    s.flat.run cs = some t.flat := by
  induction cs generalizing s with
  | nil =>
    cases h
    rfl
  | cons c cs ih =>
    obtain ⟨u, hstep, hrun⟩ := Option.bind_eq_some_iff.1 h
    have hfirst : s.pending ++ [c] <:+: s.pending ++ c :: cs := ⟨[], cs, by simp⟩
    have hmore : u.pending ++ cs <:+: s.pending ++ c :: cs :=
      ((pending_append_suffix hstep cs).trans (List.suffix_append _ _)).isInfix
    rw [PathScan.run_cons, step_flat hstep (hbare.of_infix hfirst)]
    exact ih hrun (hbare.of_infix hmore)

end Scan

/-! ## Paths -/

theorem not_endsPath_of_isNamePart (h : isNamePart c = true) : endsPath c = false ∧ c ≠ '[' := by
  simp only [isNamePart, Bool.and_eq_true, Bool.not_eq_true', List.contains_eq_mem,
    decide_eq_false_iff_not] at h
  obtain ⟨hblank, hends⟩ := h
  have hall : "=!<>&|,()]".toList.all (nameEnds.contains ·) = true := by decide
  refine ⟨?_, ?_⟩
  · simp only [endsPath, hblank, Bool.false_or, List.contains_eq_mem, decide_eq_false_iff_not]
    exact fun hmem => hends (List.contains_iff_mem.1 (List.all_eq_true.1 hall c hmem))
  · rintro rfl
    exact hends (by decide)

theorem run_of_forall (h : ∀ c ∈ cs, endsPath c = false ∧ c ≠ '[') :
    (PathScan.outside 0).run cs = some (.outside 0) := by
  induction cs with
  | nil => rfl
  | cons c cs ih =>
    obtain ⟨hends, hopen⟩ := h c List.mem_cons_self
    rw [PathScan.run_cons, PathScan.step, if_neg hopen, if_neg (by simp [hends])]
    exact ih fun d hd => h d (List.mem_cons_of_mem c hd)

/-- Where quotes are bare, the scan runs through steps and is then outside all brackets. -/
theorem AreSteps.run {found : List Step} (h : AreSteps cs found) (hbare : QuotesAreBare cs) :
    (PathScan.outside 0).run cs = some (.outside 0) := by
  have hname : ∀ {name : List Char}, (∀ c ∈ name, isNamePart c = true) →
      (PathScan.outside 0).run name = some (.outside 0) :=
    fun h => run_of_forall fun c hc => not_endsPath_of_isNamePart (h c hc)
  induction h with
  | nil => rfl
  | @descendant name rest _ _ hpart _ _ ih =>
    show (PathScan.outside 0).run (name ++ rest) = _
    rw [PathScan.run_append, hname hpart]
    exact ih (hbare.of_infix (List.suffix_append ('.' :: '.' :: name) rest).isInfix)
  | wildcard _ ih => exact ih (hbare.of_infix (List.suffix_append ['.', '*'] _).isInfix)
  | @child name rest _ _ _ hpart _ _ ih =>
    show (PathScan.outside 0).run (name ++ rest) = _
    rw [PathScan.run_append, hname hpart]
    exact ih (hbare.of_infix (List.suffix_append ('.' :: name) rest).isInfix)
  | @bracket cs selector rest _ hcut _ ih =>
    obtain ⟨rfl, hpasses⟩ := cutBracket_eq_some_iff.1 hcut
    have hselector : QuotesAreBare selector := hbare.of_infix ⟨['['], ']' :: rest, by simp⟩
    have hrest : QuotesAreBare rest := hbare.of_infix ⟨'[' :: selector ++ [']'], [], by simp⟩
    -- between the brackets both scans do the same
    have hinner : (PathScan.outside 1).run selector = some (.outside 1) :=
      Scan.run_flat hpasses hselector
    show (PathScan.outside 1).run (selector ++ ']' :: rest) = _
    rw [PathScan.run_append, hinner]
    exact ih hrest

/-- The tokens of a filter that is given as a string. -/
def tokensOf (source : String) : Except PathError (List Token) :=
  tokens source.toList.length source.toList

/-- A text that may follow an operand: it is empty, or it starts with a blank or with a sign of the
language of filters that is no part of a path. -/
def FollowsOperand (r : String) : Prop :=
  r.toList = [] ∨ ∃ c ∈ r.toList.head?, endsPath c = true

/-- A path that is read by itself, before a text that is cut into tokens, is cut off as one token
just if the scan for its end runs through it and stops there. It does so before all texts that may
follow an operand if no quote of the path has a backslash before it. As an operand the path is what
it is by itself. -/
theorem tokens_operand [Regex.Compiler] {p : String} {a : Path} (ha : read p = .ok a)
    (hsign : p.toList.head? = some '@' ∨ p.toList.head? = some '$') (htrim : Text.trimmed p = p) :
    (∀ (r : String) (ts : List Token), tokensOf r = .ok ts →
        (tokensOf (p ++ r) = .ok (.path p.toList :: ts) ↔ EndsBetween p.toList.tail r.toList)) ∧
      (QuotesAreBare p.toList → ∀ (r : String) (ts : List Token), FollowsOperand r →
        tokensOf r = .ok ts → tokensOf (p ++ r) = .ok (.path p.toList :: ts)) ∧
      ∀ ts, found (operand route (.path p.toList :: ts)) = .ok (.path a.root a.segments, ts) := by
  obtain ⟨c, cs, hp, hc⟩ : ∃ c cs, p.toList = c :: cs ∧ (c = '@' ∨ c = '$') := by
    rcases hsign with hsign | hsign
    all_goals
      obtain ⟨cs, hcs⟩ := List.head?_eq_some_iff.1 hsign
      exact ⟨_, cs, hcs, by simp⟩
  obtain ⟨-, hroute⟩ := read_eq_ok_iff.1 ha
  have htrim' : Text.trim p.toList = c :: cs := by
    rw [← hp, ← String.toList_ofList (l := Text.trim p.toList)]
    exact congrArg String.toList htrim
  have hiff : ∀ (r : String) (ts : List Token), tokensOf r = .ok ts →
      (tokensOf (p ++ r) = .ok (.path p.toList :: ts) ↔
        EndsBetween p.toList.tail r.toList) := by
    intro r ts hr
    have hts : AreTokens r.toList ts := (tokens_eq_ok_iff _).1 hr
    rw [tokensOf, tokens_eq_ok_iff, String.toList_append, hp]
    exact areTokens_path_iff hc hts
  refine ⟨hiff, fun hbare r ts hfollows hr => ?_, fun ts => ?_⟩
  · rw [htrim'] at hroute
    obtain ⟨-, found, hfound, -⟩ := hroute.of_sign hc
    rw [hp] at hbare
    have hrun := hfound.run (hbare.of_infix (List.suffix_cons c cs).isInfix)
    refine (hiff r ts hr).2 ⟨.outside 0, ?_, hfollows.imp id fun hends => ⟨rfl, hends⟩⟩
    rw [hp]
    exact hrun
  · rw [found_operand_path, route_eq_ok_iff.2 hroute]
    rfl

/-- A comparison with a text, as it follows an operand. -/
theorem tokensOf_comparison : tokensOf " == 'x'" = .ok [.op .eq, .text "x"] := by
  have hmark : IsToken '=' "= 'x'".toList (.op .eq) " 'x'".toList :=
    .punctuation (n := 2) (by simp [startsCut, isQuote]) rfl
  exact (tokens_eq_ok_iff _).2
    (.blank rfl (.token rfl hmark (.blank rfl (.token rfl (.text rfl rfl) .nil))))

/-- The name in a bracket may hold a bracket, a quote of the other kind and a backslash. -/
theorem tokens_operand_quoted :
    ∃ a, read "@[\"it's\\d]\"].n" = .ok a ∧ QuotesAreBare "@[\"it's\\d]\"].n".toList ∧
      FollowsOperand " == 'x'" ∧
      tokensOf ("@[\"it's\\d]\"].n" ++ " == 'x'") =
        .ok [.path "@[\"it's\\d]\"].n".toList, .op .eq, .text "x"] := by
  have hsteps : AreSteps "[\"it's\\d]\"].n".toList
      [.bracket "\"it's\\d]\"".toList, .child ['n']] :=
    .bracket (by decide) (.child (by decide) (by decide) (List.all_eq_true.1 (by decide))
      endsName_nil .nil)
  have hread : read "@[\"it's\\d]\"].n" =
      .ok ⟨"@[\"it's\\d]\"].n", .current, [.child "it's\\d]", .child "n"]⟩ :=
    read_eq_ok_iff.2 ⟨rfl, .current ⟨_, hsteps, .cons rfl (.cons rfl .nil)⟩⟩
  have hbare : QuotesAreBare "@[\"it's\\d]\"].n".toList := by decide
  have hfollows : FollowsOperand " == 'x'" := .inr ⟨' ', rfl, rfl⟩
  refine ⟨_, hread, hbare, hfollows, ?_⟩
  exact (tokens_operand hread (.inl rfl) (by decide)).2.1 hbare _ _ hfollows tokensOf_comparison

/-- A quote with a backslash before it hides the end of a path: a path that is read by itself is not
always the same operand before a blank. -/
theorem not_tokens_operand :
    ¬ ∀ (p : String) (a : Path) (r : String) (ts : List Token), read p = .ok a →
      p.toList.head? = some '@' → Text.trimmed p = p → (∃ c ∈ r.toList.head?, Text.isBlank c = true) →
        tokensOf r = .ok ts → tokensOf (p ++ r) = .ok (.path p.toList :: ts) := by
  intro h
  have hsteps : AreSteps "['a\\'b']".toList [.bracket "'a\\'b'".toList] :=
    .bracket (by decide) .nil
  have hread : read "@['a\\'b']" = .ok ⟨"@['a\\'b']", .current, [.child "a\\'b"]⟩ :=
    read_eq_ok_iff.2 ⟨rfl, .current ⟨_, hsteps, .cons rfl .nil⟩⟩
  have htokens := h _ _ " == 'x'" _ hread rfl (by decide) ⟨' ', rfl, rfl⟩ tokensOf_comparison
  -- the scan takes the comparison for a part of the path
  have hwhole : AreTokens ("@['a\\'b']" ++ " == 'x'").toList [.path "@['a\\'b'] == 'x'".toList] :=
    .token rfl (.path (.inl rfl)) .nil
  rw [tokensOf, (tokens_eq_ok_iff _).2 hwhole] at htokens
  exact absurd (Except.ok.inj htokens) (by simp)

end Mooring.Path
