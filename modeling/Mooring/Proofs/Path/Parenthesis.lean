import Mooring.Proofs.Path.Passing

set_option autoImplicit false

/-!
# Filters before a closing parenthesis

No filter is read from a text that goes on with a closing parenthesis after a filter
(`not_condition_append`). The parenthesis ends every token before it, except a path with a bracket
or a quote that the cutting of tokens takes for open; but such a path is read only without the
parenthesis. So the tokens of the filter come first, and the grammar cannot go on from them with a
parenthesis that none of them opened.
-/

namespace Mooring.Path

variable {c : Char} {cs rest more : List Char} {t : Token} {ts us : List Token}

/-! ## Cuts before a parenthesis -/

theorem takeWhile_append_cons {p : Char → Bool} (h : p c = false) (cs more : List Char) :
    (cs ++ c :: more).takeWhile p = cs.takeWhile p := by
  induction cs with
  | nil => simp [h]
  | cons d cs ih => simp only [List.cons_append, List.takeWhile_cons, ih]

theorem dropWhile_append_cons {p : Char → Bool} (h : p c = false) (cs more : List Char) :
    (cs ++ c :: more).dropWhile p = cs.dropWhile p ++ c :: more := by
  induction cs with
  | nil => simp [h]
  | cons d cs ih =>
    simp only [List.cons_append, List.dropWhile_cons, ih]
    split <;> rfl

theorem cutText_append {q : Char} (hq : q ≠ '\\') {text : List Char}
    (h : cutText q cs = some (text, rest)) (more : List Char) :
    cutText q (cs ++ more) = some (text, rest ++ more) := by
  fun_induction cutText q cs generalizing text with
  | case1 => cases h
  | case2 c cs ih =>
    obtain ⟨⟨text', rest'⟩, hcut, he⟩ := Option.map_eq_some_iff.1 h
    cases he
    rw [List.cons_append, List.cons_append, cutText, ih hcut]
    rfl
  | case3 cs =>
    cases h
    rw [List.cons_append, cutText, if_pos rfl]
    rintro d ds rfl
    exact absurd rfl hq
  | case4 c cs hne hquote ih =>
    obtain ⟨⟨text', rest'⟩, hcut, he⟩ := Option.map_eq_some_iff.1 h
    cases he
    rw [List.cons_append, cutText, if_neg hquote, ih hcut]
    · rfl
    · rintro d ds rfl hds
      cases cs with
      | nil => cases hcut
      | cons d cs => exact hne d cs rfl rfl

theorem cutRegex_append {pattern : List Char} (h : cutRegex cs = some (pattern, rest))
    (more : List Char) : cutRegex (cs ++ more) = some (pattern, rest ++ more) := by
  fun_induction cutRegex cs generalizing pattern with
  | case1 => cases h
  | case2 cs ih =>
    obtain ⟨⟨pattern', rest'⟩, hcut, he⟩ := Option.map_eq_some_iff.1 h
    cases he
    rw [List.cons_append, List.cons_append, cutRegex, ih hcut]
    rfl
  | case3 cs =>
    cases h
    rw [List.cons_append, cutRegex, if_pos rfl]
    rintro ds he
    cases he
  | case4 c cs hne hslash ih =>
    obtain ⟨⟨pattern', rest'⟩, hcut, he⟩ := Option.map_eq_some_iff.1 h
    cases he
    rw [List.cons_append, cutRegex, if_neg hslash, ih hcut]
    · rfl
    · rintro ds rfl hds
      cases cs with
      | nil => cases hcut
      | cons d cs =>
        obtain ⟨rfl, rfl⟩ := List.cons.inj hds
        exact hne cs rfl rfl

/-- A parenthesis ends a path, or the path takes it in. -/
theorem cutPath_append_closeParen (depth : Nat) (quote : Option Char) (cs more : List Char) :
    cutPath depth quote (cs ++ ')' :: more) =
        ((cutPath depth quote cs).1, (cutPath depth quote cs).2 ++ ')' :: more) ∨
      ∃ after rest, cutPath depth quote (cs ++ ')' :: more) =
        ((cutPath depth quote cs).1 ++ ')' :: after, rest) := by
  -- each case puts its character in front of what the rest is cut into
  have hcons : ∀ {c : Char} {a b : List Char} {cut : List Char × List Char},
      (cut = (a, b ++ ')' :: more) ∨ ∃ after rest, cut = (a ++ ')' :: after, rest)) →
      consFirst c cut = (c :: a, b ++ ')' :: more) ∨
        ∃ after rest, consFirst c cut = (c :: a ++ ')' :: after, rest) := by
    rintro c a b cut (rfl | ⟨after, rest, rfl⟩)
    · exact .inl rfl
    · exact .inr ⟨after, rest, rfl⟩
  fun_induction cutPath depth quote cs with
  | case1 depth quote =>
    cases quote with
    | some q => exact .inr ⟨_, _, rfl⟩
    | none =>
      cases depth with
      | zero => exact .inl rfl
      | succ depth => exact .inr ⟨_, _, rfl⟩
  | case2 depth q c cs ih =>
    rw [List.cons_append, cutPath]
    exact hcons ih
  | case3 cs ih =>
    rw [List.cons_append, cutPath, if_pos rfl]
    exact hcons ih
  | case4 c cs hopen hends =>
    rw [List.cons_append, cutPath, if_neg hopen, if_pos hends]
    exact .inl rfl
  | case5 c cs hopen hends ih =>
    rw [List.cons_append, cutPath, if_neg hopen, if_neg hends]
    exact hcons ih
  | case6 depth c cs hquote ih =>
    rw [List.cons_append, cutPath, if_pos hquote]
    exact hcons ih
  | case7 depth cs hquote ih =>
    rw [List.cons_append, cutPath, if_neg hquote, if_pos rfl]
    exact hcons ih
  | case8 depth cs hquote hopen ih =>
    rw [List.cons_append, cutPath, if_neg hquote, if_neg hopen, if_pos rfl]
    exact hcons ih
  | case9 depth c cs hquote hopen hclose ih =>
    rw [List.cons_append, cutPath, if_neg hquote, if_neg hopen, if_neg hclose]
    exact hcons ih

/-- The characters that punctuation starts with. -/
def marks : List Char :=
  "[],()=!<>&|".toList

theorem mem_marks {n : Nat} (h : punctuation? (c :: cs) = some (t, n)) : c ∈ marks := by
  unfold punctuation? at h
  split at h
  all_goals
    cases h <;> next he =>
      cases he
      decide

theorem notMem_marks {p : Char → Bool} (hmarks : marks.all (fun d => !p d) = true)
    (h : p c = true) : c ∉ marks := by
  intro hmem
  have hnot := List.all_eq_true.1 hmarks c hmem
  simp [h] at hnot

theorem punctuation?_eq_none (h : c ∉ marks) (cs : List Char) : punctuation? (c :: cs) = none := by
  refine Option.eq_none_iff_forall_ne_some.2 fun r hr => ?_
  exact h (mem_marks (t := r.1) (n := r.2) hr)

theorem punctuation?_append_closeParen {n : Nat} (h : punctuation? cs = some (t, n))
    (more : List Char) : punctuation? (cs ++ ')' :: more) = some (t, n) := by
  have hnext : ∀ {tail : List Char}, (∀ tail', tail = '=' :: tail' → False) →
      ∀ tail', tail ++ ')' :: more = '=' :: tail' → False := by
    intro tail htail tail' he
    cases tail with
    | nil => exact absurd (List.cons.inj he).1 (by decide)
    | cons d tail => exact htail tail (by rw [(List.cons.inj he).1])
  unfold punctuation? at h
  split at h
  all_goals
    cases h <;>
    first
    | rfl
    | next htail =>
      rw [List.cons_append, punctuation?]
      exact hnext htail

theorem punctuation?_length {n : Nat} (h : punctuation? cs = some (t, n)) : n ≤ cs.length := by
  unfold punctuation? at h
  split at h
  all_goals cases h <;> simp

/-! ## Tokens before a parenthesis -/

/-- A parenthesis ends a token, or a path takes it in. -/
theorem IsToken.append_closeParen (h : IsToken c cs t rest) (more : List Char) :
    IsToken c (cs ++ ')' :: more) t (rest ++ ')' :: more) ∨
      ∃ text after rest', t = .path text ∧
        IsToken c (cs ++ ')' :: more) (.path (text ++ ')' :: after)) rest' := by
  cases h with
  | path hc =>
    -- only the cut of a path may go on past the parenthesis
    have hpath : IsToken c (cs ++ ')' :: more) _ _ := .path hc
    rcases cutPath_append_closeParen 0 none cs more with he | ⟨after, rest', he⟩
    · rw [he] at hpath
      exact .inl hpath
    · rw [he] at hpath
      exact .inr ⟨_, after, rest', rfl, hpath⟩
  | text hc hcut =>
    have hq : c ≠ '\\' := by
      rintro rfl
      cases hc
    exact .inl (.text hc (cutText_append hq hcut _))
  | @regex _ pattern rest _ hcut hflags =>
    rw [← takeWhile_append_cons (c := ')') (by decide) rest more] at hflags
    have hregex := IsToken.regex (cutRegex_append hcut (')' :: more)) hflags
    rw [dropWhile_append_cons (by decide)] at hregex
    exact .inl hregex
  | @punctuation _ _ _ n hc h =>
    have hlength := punctuation?_length h
    have hall : punctuation? (c :: (cs ++ ')' :: more)) = some (t, n) :=
      punctuation?_append_closeParen h more
    have hpunctuation := IsToken.punctuation hc hall
    rw [List.length_cons] at hlength
    rw [List.drop_append_of_le_length (by omega)] at hpunctuation
    exact .inl hpunctuation
  | number hc _ hdigit hread =>
    have hmark : c ∉ marks := by
      rcases hdigit with rfl | hdigit
      · decide
      · exact notMem_marks (by decide) hdigit
    rw [← takeWhile_append_cons (c := ')') (by decide) cs more] at hread
    have hnumber := IsToken.number hc (punctuation?_eq_none hmark _) hdigit hread
    rw [dropWhile_append_cons (by decide)] at hnumber
    exact .inl hnumber
  | word hc _ hdigit halpha hword =>
    have hmark : c ∉ marks := notMem_marks (by decide) halpha
    rw [← takeWhile_append_cons (c := ')') (by decide) cs more] at hword
    have hword := IsToken.word hc (punctuation?_eq_none hmark _) hdigit halpha hword
    rw [dropWhile_append_cons (by decide)] at hword
    exact .inl hword

/-! ## Paths before a parenthesis -/

theorem AreSteps.head {found : List Step} (h : AreSteps (c :: cs) found) : c = '.' ∨ c = '[' := by
  cases h <;> simp

theorem endsName_of_blank (h : ∀ c ∈ cs, Text.isBlank c = true) (more : List Char) :
    EndsName (cs ++ ')' :: more) := by
  have hblank : ∀ c, Text.isBlank c = true → isNamePart c = false := by
    intro c hc
    simp [isNamePart, hc]
  cases cs with
  | nil => exact endsName_cons (by decide)
  | cons c cs => exact endsName_cons (hblank c (h c List.mem_cons_self))

/-- No path with a root's sign goes on with a parenthesis. -/
theorem not_route_append [Regex.Compiler] (hc : c = '@' ∨ c = '$') {r r' : Route}
    (h : route (c :: cs) = .ok r) (h' : route (c :: (cs ++ ')' :: more)) = .ok r') : False := by
  have hblank : Text.isBlank c = false := by rcases hc with rfl | rfl <;> decide
  have htrim : ∀ ds, Text.trim (c :: ds) = c :: Text.trimEnd ds := by
    intro ds
    rw [Text.trim, Text.trimStart_cons hblank, Text.trimEnd_cons hblank]
  rw [route_eq_ok_iff, htrim] at h h'
  obtain ⟨-, found, hfound, -⟩ := h.of_sign hc
  obtain ⟨-, all, hall, -⟩ := h'.of_sign hc
  -- the blanks that were trimmed and the parenthesis would have to be steps
  obtain ⟨blanks, hcs, hblanks⟩ := Text.exists_eq_trimEnd_append cs
  rw [Text.trimEnd_append List.mem_cons_self (by decide), Text.trimEnd_cons (by decide)] at hall
  rw [hcs, List.append_assoc] at hall
  obtain ⟨found', -, hfound'⟩ := hfound.of_append (endsName_of_blank hblanks _) hall
  cases blanks with
  | nil => exact absurd hfound'.head (by decide)
  | cons d blanks =>
    rcases hfound'.head with rfl | rfl
    · exact absurd (hblanks _ List.mem_cons_self) (by decide)
    · exact absurd (hblanks _ List.mem_cons_self) (by decide)

/-! ## Filters before a parenthesis -/

theorem AreTokens.append_closeParen [Regex.Compiler] (ht : AreTokens cs ts)
    (hu : AreTokens (cs ++ ')' :: more) us)
    (htpaths : ∀ text, .path text ∈ ts → ∃ r, route text = .ok r)
    (hupaths : ∀ text, .path text ∈ us → ∃ r, route text = .ok r) :
    ∃ vs, us = ts ++ .closeParen :: vs := by
  induction ht generalizing us with
  | nil =>
    cases hu with
    | blank hc => exact absurd hc (by decide)
    | token _ ht' _ =>
      have hparen : IsToken ')' more .closeParen more :=
        .punctuation (n := 1) (by simp [startsCut, isQuote]) rfl
      obtain ⟨rfl, rfl⟩ := hparen.eq ht'
      exact ⟨_, rfl⟩
  | blank hc _ ih =>
    cases hu with
    | blank _ hu => exact ih hu htpaths hupaths
    | token hc' => exact absurd hc (by simp [hc'])
  | @token c cs rest t ts hc ht _ ih =>
    cases hu with
    | blank hc' => exact absurd hc' (by simp [hc])
    | @token _ _ rest' t' us' _ ht' hu =>
      rcases ht.append_closeParen more with hsame | ⟨text, after, rest'', rfl, hpath⟩
      · obtain ⟨rfl, rfl⟩ := hsame.eq ht'
        obtain ⟨vs, rfl⟩ := ih hu (fun text hmem => htpaths text (List.mem_cons_of_mem t hmem))
          fun text hmem => hupaths text (List.mem_cons_of_mem t hmem)
        exact ⟨vs, rfl⟩
      · -- the path that takes the parenthesis in would have to be read, too
        obtain ⟨rfl, rfl⟩ := hpath.eq ht'
        obtain ⟨hroot, rfl, -⟩ := ht.eq_path
        obtain ⟨r, hr⟩ := htpaths _ List.mem_cons_self
        obtain ⟨r', hr'⟩ := hupaths _ List.mem_cons_self
        exact (not_route_append hroot hr hr').elim

/-- No condition goes on with a parenthesis that it has not opened. -/
theorem Derives.not_append [Regex.Compiler] {routeOf : RouteReader} {a b : Condition}
    (ha : Derives routeOf.routes .disjunction ts a)
    (hb : Derives routeOf.routes .disjunction (ts ++ .closeParen :: us) b) : False := by
  -- read from the front, both conditions end in the same place
  have hfirst := ha.isFound (.closeParen :: us) (fun c => by simp) (by simp)
  have hall := hb.isFound [] (fun c => by simp) (by simp)
  rw [List.append_nil, hfirst, found_moreDisjuncts_of_ne a (by simp),
    found_moreDisjuncts_of_ne b (by simp)] at hall
  cases hall

theorem not_condition_append [Regex.Compiler] {a b : Condition} (ha : condition cs = .ok a)
    (hb : condition (cs ++ ')' :: more) = .ok b) : False := by
  obtain ⟨ts, hts, ha⟩ := condition_eq_ok_iff.1 ha
  obtain ⟨us, hus, hb⟩ := condition_eq_ok_iff.1 hb
  obtain ⟨vs, rfl⟩ := hts.append_closeParen hus ha.balanced.paths hb.balanced.paths
  exact ha.not_append hb

end Mooring.Path
