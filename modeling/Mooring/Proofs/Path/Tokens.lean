import Mooring.Path.Scanning
import Mooring.Proofs.Fallible

set_option autoImplicit false

/-!
# The tokens of a filter

Which tokens a text is cut into, as a relation: `IsToken` for one token at the front of a text, one
constructor for each kind of beginning, and `AreTokens` for a whole text with blanks between them.
Both say what the functions that cut return (`found_token_iff`, `tokens_eq_ok_iff`); the positions
in errors, and the length of the whole text that they are counted from, play no part in them.
-/

namespace Mooring.Path

/-! ## One token -/

/-- What a reader found and what follows it, without the proof that something was used up. -/
def found {α β : Type} {P : List β → Prop}
    (p : Except PathError (α × { rest : List β // P rest })) : Except PathError (α × List β) :=
  p.map fun r => (r.1, r.2.1)

/-- Whether a character starts a path, a text or a regular expression. -/
def startsCut (c : Char) : Prop :=
  (c = '@' ∨ c = '$') ∨ isQuote c = true ∨ c = '/'

/-- The token that a text `c :: cs` starts with, and what follows it. -/
inductive IsToken : Char → List Char → Token → List Char → Prop where
  | path {c : Char} {cs : List Char} (hc : c = '@' ∨ c = '$') :
      IsToken c cs (.path (c :: (cutPath 0 none cs).1)) (cutPath 0 none cs).2
  | text {c : Char} {cs text rest : List Char} (hc : isQuote c = true)
      (hcut : cutText c cs = some (text, rest)) : IsToken c cs (.text (String.ofList text)) rest
  | regex {cs pattern rest : List Char} {t : Token} (hcut : cutRegex cs = some (pattern, rest))
      (hflags : flagged pattern (rest.takeWhile Char.isAlpha) = .ok t) :
      IsToken '/' cs t (rest.dropWhile Char.isAlpha)
  | punctuation {c : Char} {cs : List Char} {t : Token} {n : Nat} (hc : ¬ startsCut c)
      (h : punctuation? (c :: cs) = some (t, n)) : IsToken c cs t (cs.drop (n - 1))
  | number {c : Char} {cs : List Char} {d : Double} (hc : ¬ startsCut c)
      (hnone : punctuation? (c :: cs) = none) (hdigit : c = '-' ∨ c.isDigit = true)
      (hread : Double.readText? (c :: cs.takeWhile isNumberPart) = some d) :
      IsToken c cs (.number d) (cs.dropWhile isNumberPart)
  | word {c : Char} {cs : List Char} {t : Token} (hc : ¬ startsCut c)
      (hnone : punctuation? (c :: cs) = none) (hdigit : ¬ (c = '-' ∨ c.isDigit = true))
      (halpha : Text.isAlphabetic c = true)
      (hword : wordToken? (String.ofList (c :: cs.takeWhile isWordPart)) = some t) :
      IsToken c cs t (cs.dropWhile isWordPart)

section Equations

variable (total : Nat) {c : Char} (cs : List Char)

theorem found_token_path (hc : c = '@' ∨ c = '$') :
    found (token total c cs) = .ok (.path (c :: (cutPath 0 none cs).1), (cutPath 0 none cs).2) := by
  unfold token
  rw [if_pos hc]
  rfl

theorem found_token_text (hc : isQuote c = true) :
    found (token total c cs) =
      (cutText c cs).elim (.error (.unterminatedText (total - (c :: cs).length)))
        fun cut => .ok (.text (String.ofList cut.1), cut.2) := by
  have hpath : ¬ (c = '@' ∨ c = '$') := by
    rintro (rfl | rfl) <;> cases hc
  unfold token
  rw [if_neg hpath, if_pos hc]
  split
  · next hcut =>
    simp only [hcut, Option.elim_some]
    rfl
  · next hnone =>
    simp only [hnone, Option.elim_none]
    rfl

theorem found_token_regex :
    found (token total '/' cs) =
      (cutRegex cs).elim (.error (.unterminatedRegex (total - ('/' :: cs).length)))
        fun cut => (flagged cut.1 (cut.2.takeWhile Char.isAlpha)).map
          fun t => (t, cut.2.dropWhile Char.isAlpha) := by
  unfold token
  rw [if_neg (by decide), if_neg (by decide), if_pos rfl]
  split
  · next hcut =>
    simp only [hcut, Option.elim_some]
    split
    · next hflags =>
      rw [hflags]
      rfl
    · next hflags =>
      rw [hflags]
      rfl
  · next hnone =>
    simp only [hnone, Option.elim_none]
    rfl

variable {cs} (hc : ¬ startsCut c)
include hc

theorem found_token_punctuation {t : Token} {n : Nat} (h : punctuation? (c :: cs) = some (t, n)) :
    found (token total c cs) = .ok (t, cs.drop (n - 1)) := by
  unfold token
  rw [if_neg fun hpath => hc (.inl hpath), if_neg fun hquote => hc (.inr (.inl hquote)),
    if_neg fun hslash => hc (.inr (.inr hslash)), h]
  rfl

variable (hnone : punctuation? (c :: cs) = none)
include hnone

theorem found_token_number (hdigit : c = '-' ∨ c.isDigit = true) :
    found (token total c cs) =
      (Double.readText? (c :: cs.takeWhile isNumberPart)).elim
        (.error (.invalidNumber (c :: cs.takeWhile isNumberPart)))
        fun d => .ok (.number d, cs.dropWhile isNumberPart) := by
  unfold token
  rw [if_neg fun hpath => hc (.inl hpath), if_neg fun hquote => hc (.inr (.inl hquote)),
    if_neg fun hslash => hc (.inr (.inr hslash)), hnone]
  simp only [if_pos hdigit]
  cases Double.readText? (c :: cs.takeWhile isNumberPart) <;> rfl

variable (hdigit : ¬ (c = '-' ∨ c.isDigit = true))
include hdigit

theorem found_token_word (halpha : Text.isAlphabetic c = true) :
    found (token total c cs) =
      (wordToken? (String.ofList (c :: cs.takeWhile isWordPart))).elim
        (.error (.unexpectedWord (c :: cs.takeWhile isWordPart)))
        fun t => .ok (t, cs.dropWhile isWordPart) := by
  unfold token
  rw [if_neg fun hpath => hc (.inl hpath), if_neg fun hquote => hc (.inr (.inl hquote)),
    if_neg fun hslash => hc (.inr (.inr hslash)), hnone]
  simp only [if_neg hdigit, if_pos halpha]
  cases wordToken? (String.ofList (c :: cs.takeWhile isWordPart)) <;> rfl

theorem found_token_unexpected (halpha : ¬ Text.isAlphabetic c = true) :
    found (token total c cs) = .error (.unexpectedChar c (total - (c :: cs).length)) := by
  unfold token
  rw [if_neg fun hpath => hc (.inl hpath), if_neg fun hquote => hc (.inr (.inl hquote)),
    if_neg fun hslash => hc (.inr (.inr hslash)), hnone]
  simp only [if_neg hdigit, if_neg halpha]
  rfl

end Equations

theorem isToken_of_found {total : Nat} {c : Char} {cs rest : List Char} {t : Token}
    (h : found (token total c cs) = .ok (t, rest)) : IsToken c cs t rest := by
  -- the cases are those of the first character, in the order in which they are tried
  by_cases hc : startsCut c
  · rcases hc with hc | hc | rfl
    · rw [found_token_path total cs hc] at h
      cases h
      exact .path hc
    · rw [found_token_text total cs hc] at h
      cases hcut : cutText c cs with
      | none =>
        rw [hcut] at h
        cases h
      | some cut =>
        rw [hcut] at h
        cases h
        exact .text hc hcut
    · rw [found_token_regex total cs] at h
      cases hcut : cutRegex cs with
      | none =>
        rw [hcut] at h
        cases h
      | some cut =>
        rw [hcut] at h
        obtain ⟨t', hflags, he⟩ := map_eq_ok_iff.1 h
        cases he
        exact .regex hcut hflags
  · cases hmark : punctuation? (c :: cs) with
    | some mark =>
      rw [found_token_punctuation total hc hmark] at h
      cases h
      exact .punctuation hc hmark
    | none =>
      by_cases hdigit : c = '-' ∨ c.isDigit = true
      · rw [found_token_number total hc hmark hdigit] at h
        cases hread : Double.readText? (c :: cs.takeWhile isNumberPart) with
        | none =>
          rw [hread] at h
          cases h
        | some d =>
          rw [hread] at h
          cases h
          exact .number hc hmark hdigit hread
      · by_cases halpha : Text.isAlphabetic c = true
        · rw [found_token_word total hc hmark hdigit halpha] at h
          cases hword : wordToken? (String.ofList (c :: cs.takeWhile isWordPart)) with
          | none =>
            rw [hword] at h
            cases h
          | some t' =>
            rw [hword] at h
            cases h
            exact .word hc hmark hdigit halpha hword
        · rw [found_token_unexpected total hc hmark hdigit halpha] at h
          cases h

theorem found_token_iff (total : Nat) {c : Char} {cs rest : List Char} {t : Token} :
    found (token total c cs) = .ok (t, rest) ↔ IsToken c cs t rest := by
  refine ⟨isToken_of_found, fun h => ?_⟩
  cases h with
  | path hc => exact found_token_path total cs hc
  | text hc hcut =>
    rw [found_token_text total cs hc, hcut]
    rfl
  | regex hcut hflags =>
    rw [found_token_regex total cs, hcut]
    exact map_eq_ok_iff.2 ⟨t, hflags, rfl⟩
  | punctuation hc h => exact found_token_punctuation total hc h
  | number hc hnone hdigit hread =>
    rw [found_token_number total hc hnone hdigit, hread]
    rfl
  | word hc hnone hdigit halpha hword =>
    rw [found_token_word total hc hnone hdigit halpha, hword]
    rfl

theorem punctuation?_ne_path {cs text : List Char} {n : Nat} :
    punctuation? cs ≠ some (.path text, n) := by
  unfold punctuation?
  split <;> simp

theorem wordToken?_ne_path {word : String} {text : List Char} :
    wordToken? word ≠ some (.path text) := by
  unfold wordToken?
  split <;> simp

theorem flagged_ne_path {pattern flags text : List Char} :
    flagged pattern flags ≠ .ok (.path text) := by
  unfold flagged
  split <;> simp

/-- Only a path writes a path. -/
theorem IsToken.eq_path {c : Char} {cs text rest : List Char} (h : IsToken c cs (.path text) rest) :
    (c = '@' ∨ c = '$') ∧ text = c :: (cutPath 0 none cs).1 ∧ rest = (cutPath 0 none cs).2 := by
  cases h with
  | path hc => exact ⟨hc, rfl, rfl⟩
  | regex _ hflags => exact absurd hflags flagged_ne_path
  | punctuation _ h => exact absurd h punctuation?_ne_path
  | word _ _ _ _ hword => exact absurd hword wordToken?_ne_path

theorem IsToken.length_le {c : Char} {cs rest : List Char} {t : Token} (h : IsToken c cs t rest) :
    rest.length ≤ cs.length := by
  obtain ⟨⟨t', rest', hle⟩, -, he⟩ := map_eq_ok_iff.1 ((found_token_iff 0).2 h)
  cases he
  exact hle

/-- A text starts with no more than one token. -/
theorem IsToken.eq {c : Char} {cs rest rest' : List Char} {t t' : Token} (h : IsToken c cs t rest)
    (h' : IsToken c cs t' rest') : t = t' ∧ rest = rest' := by
  have hfound := (found_token_iff 0).2 h
  rw [(found_token_iff 0).2 h'] at hfound
  cases hfound
  exact ⟨rfl, rfl⟩

/-! ## All tokens -/

/-- The tokens of a text. -/
inductive AreTokens : List Char → List Token → Prop where
  | nil : AreTokens [] []
  | blank {c : Char} {cs : List Char} {ts : List Token} (hc : Text.isBlank c = true)
      (h : AreTokens cs ts) : AreTokens (c :: cs) ts
  | token {c : Char} {cs rest : List Char} {t : Token} {ts : List Token}
      (hc : Text.isBlank c = false) (ht : IsToken c cs t rest) (h : AreTokens rest ts) :
      AreTokens (c :: cs) (t :: ts)

/-- The text of a path is a part of the text it is a token of. -/
theorem AreTokens.path_length {cs text : List Char} {ts : List Token} (h : AreTokens cs ts)
    (hmem : .path text ∈ ts) : text.length ≤ cs.length := by
  induction h with
  | nil => cases hmem
  | blank _ _ ih => exact Nat.le_succ_of_le (ih hmem)
  | @token c cs rest t ts _ ht _ ih =>
    rcases List.mem_cons.1 hmem with rfl | hmem
    · obtain ⟨-, rfl, -⟩ := ht.eq_path
      have := cutPath_length 0 none cs
      simp only [List.length_cons]
      omega
    · have := ih hmem
      have := ht.length_le
      simp only [List.length_cons]
      omega

theorem tokens_eq_ok_iff (total : Nat) {cs : List Char} {ts : List Token} :
    tokens total cs = .ok ts ↔ AreTokens cs ts := by
  constructor
  · intro h
    fun_induction tokens total cs generalizing ts with
    | case1 =>
      cases h
      exact .nil
    | case2 c cs hc ih => exact .blank hc (ih h)
    | case3 => cases h
    | case4 => cases h
    | case5 c cs hc t rest hle htoken ts' hrest ih =>
      cases h
      refine .token (by simpa using hc) ((found_token_iff total).1 ?_) (ih hrest)
      rw [htoken]
      rfl
  · intro h
    induction h with
    | nil =>
      unfold tokens
      rfl
    | blank hc h ih =>
      unfold tokens
      rw [if_pos hc, ih]
    | @token c cs rest t ts hc ht h ih =>
      have htoken := (found_token_iff total).2 ht
      obtain ⟨⟨t', rest', hle⟩, hr, he⟩ := map_eq_ok_iff.1 htoken
      cases he
      unfold tokens
      rw [if_neg (by simp [hc]), hr]
      simp only [ih]

/-- A text has no more than one reading as tokens. -/
theorem AreTokens.eq {cs : List Char} {ts us : List Token} (ht : AreTokens cs ts)
    (hu : AreTokens cs us) : ts = us := by
  have h := (tokens_eq_ok_iff 0).2 ht
  rw [(tokens_eq_ok_iff 0).2 hu] at h
  exact (Except.ok.inj h).symm

end Mooring.Path
