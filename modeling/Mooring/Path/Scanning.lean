import Mooring.Path.Error
import Mooring.Text.Blank

set_option autoImplicit false

/-!
# Scanning paths and filters

The two ways of cutting text up: a path into its steps, and a filter into tokens. Both look for the
end of a bracket or a quoted text by a scan of its own, each a function that recurses on the
characters. A position is counted from the length of what is left of `total` characters.
-/

namespace Mooring.Path

/-! ## Names, brackets and quoted texts -/

/-- The characters at which a name ends. -/
def nameEnds : List Char :=
  ".[]()=!<>&|,'\"~".toList

/-- Whether a character belongs to a name. -/
def isNamePart (c : Char) : Bool :=
  !Text.isBlank c && !nameEnds.contains c

/-- Put a character in front of the first part of a cut. -/
def consFirst (c : Char) (cut : List Char × List Char) : List Char × List Char :=
  (c :: cut.1, cut.2)

/-- Whether a character is a quote. -/
def isQuote (c : Char) : Bool :=
  c == '\'' || c == '"'

/-- What stands in a bracket that is already open, and what follows it: `depth` more brackets are
open inside, and inside `quote` only the same quote counts and a backslash takes the next character
with it. -/
def cutBracket : Nat → Option Char → List Char → Option (List Char × List Char)
  | _, _, [] => none
  | depth, some q, '\\' :: c :: cs =>
    (cutBracket depth (some q) cs).map fun cut => consFirst '\\' (consFirst c cut)
  | depth, some q, c :: cs =>
    if c = '\\' then none
    else (cutBracket depth (if c = q then none else some q) cs).map (consFirst c)
  | depth, none, c :: cs =>
    if isQuote c then (cutBracket depth (some c) cs).map (consFirst c)
    else if c = '[' then (cutBracket (depth + 1) none cs).map (consFirst c)
    else if c = ']' then
      match depth with
      | 0 => some ([], cs)
      | depth + 1 => (cutBracket depth none cs).map (consFirst c)
    else (cutBracket depth none cs).map (consFirst c)

/-- The characters at which a path outside brackets ends inside a filter. -/
def endsPath (c : Char) : Bool :=
  Text.isBlank c || "=!<>&|,()]".toList.contains c

/-- The rest of a path inside a filter and what follows it. Inside brackets only quotes and brackets
count; outside them a quote is a character like any other. -/
def cutPath : Nat → Option Char → List Char → List Char × List Char
  | _, _, [] => ([], [])
  | depth, some q, c :: cs => consFirst c (cutPath depth (if c = q then none else some q) cs)
  | 0, none, c :: cs =>
    if c = '[' then consFirst c (cutPath 1 none cs)
    else if endsPath c then ([], c :: cs)
    else consFirst c (cutPath 0 none cs)
  | depth + 1, none, c :: cs =>
    if isQuote c then consFirst c (cutPath (depth + 1) (some c) cs)
    else if c = '[' then consFirst c (cutPath (depth + 2) none cs)
    else if c = ']' then consFirst c (cutPath depth none cs)
    else consFirst c (cutPath (depth + 1) none cs)

/-- What stands in a quoted text after its opening quote, and what follows it; a backslash stands
for the character after it. -/
def cutText (q : Char) : List Char → Option (List Char × List Char)
  | [] => none
  | '\\' :: c :: cs => (cutText q cs).map (consFirst c)
  | c :: cs => if c = q then some ([], cs) else (cutText q cs).map (consFirst c)

/-- What stands between slashes after the first, and what follows; only a slash needs a
backslash. -/
def cutRegex : List Char → Option (List Char × List Char)
  | [] => none
  | '\\' :: '/' :: cs => (cutRegex cs).map (consFirst '/')
  | c :: cs => if c = '/' then some ([], cs) else (cutRegex cs).map (consFirst c)

theorem length_of_map_consFirst {c : Char} {cut : Option (List Char × List Char)} {n : Nat}
    (ih : ∀ {a b : List Char}, cut = some (a, b) → a.length + b.length < n)
    {inner rest : List Char} (h : cut.map (consFirst c) = some (inner, rest)) :
    inner.length + rest.length < n + 1 := by
  obtain ⟨⟨a, b⟩, hc, he⟩ := Option.map_eq_some_iff.1 h
  simp only [consFirst, Prod.mk.injEq] at he
  have := ih hc
  simp only [← he.1, ← he.2, List.length_cons]
  omega

theorem cutBracket_length {depth : Nat} {quote : Option Char} {cs inner rest : List Char}
    (h : cutBracket depth quote cs = some (inner, rest)) :
    inner.length + rest.length < cs.length := by
  fun_induction cutBracket depth quote cs generalizing inner rest with
  | case1 => simp at h
  | case2 depth q c cs ih =>
    rw [show (fun cut => consFirst '\\' (consFirst c cut)) =
      (fun cut => consFirst '\\' cut) ∘ (consFirst c) from rfl, ← Option.map_map] at h
    exact length_of_map_consFirst (length_of_map_consFirst ih) h
  | case3 => simp at h
  | case4 _ _ _ _ _ _ ih => exact length_of_map_consFirst ih h
  | case5 =>
    rename_i ih
    exact length_of_map_consFirst ih h
  | case6 =>
    rename_i ih
    exact length_of_map_consFirst ih h
  | case7 =>
    simp only [Option.some.injEq, Prod.mk.injEq] at h
    simp [← h.1, ← h.2]
  | case8 =>
    rename_i ih
    exact length_of_map_consFirst ih h
  | case9 =>
    rename_i ih
    exact length_of_map_consFirst ih h

theorem cutPath_length (depth : Nat) (quote : Option Char) (cs : List Char) :
    (cutPath depth quote cs).1.length + (cutPath depth quote cs).2.length = cs.length := by
  fun_induction cutPath depth quote cs <;> simp_all [consFirst] <;> omega

theorem cutText_length {q : Char} {cs text rest : List Char}
    (h : cutText q cs = some (text, rest)) :
    rest.length < cs.length := by
  fun_induction cutText q cs generalizing text rest with
  | case1 => simp at h
  | case2 c cs ih =>
    obtain ⟨⟨a, b⟩, hc, he⟩ := Option.map_eq_some_iff.1 h
    simp only [consFirst, Prod.mk.injEq] at he
    have := ih hc
    simp only [← he.2, List.length_cons]
    omega
  | case3 =>
    simp only [Option.some.injEq, Prod.mk.injEq] at h
    simp [← h.2]
  | case4 c cs _ _ ih =>
    obtain ⟨⟨a, b⟩, hc, he⟩ := Option.map_eq_some_iff.1 h
    simp only [consFirst, Prod.mk.injEq] at he
    have := ih hc
    simp only [← he.2, List.length_cons]
    omega

theorem cutRegex_length {cs text rest : List Char} (h : cutRegex cs = some (text, rest)) :
    rest.length < cs.length := by
  fun_induction cutRegex cs generalizing text rest with
  | case1 => simp at h
  | case2 cs ih =>
    obtain ⟨⟨a, b⟩, hc, he⟩ := Option.map_eq_some_iff.1 h
    simp only [consFirst, Prod.mk.injEq] at he
    have := ih hc
    simp only [← he.2, List.length_cons]
    omega
  | case3 =>
    simp only [Option.some.injEq, Prod.mk.injEq] at h
    simp [← h.2]
  | case4 c cs _ _ ih =>
    obtain ⟨⟨a, b⟩, hc, he⟩ := Option.map_eq_some_iff.1 h
    simp only [consFirst, Prod.mk.injEq] at he
    have := ih hc
    simp only [← he.2, List.length_cons]
    omega

theorem dropWhile_length_le {α : Type} (p : α → Bool) (xs : List α) :
    (xs.dropWhile p).length ≤ xs.length :=
  (List.dropWhile_suffix p).length_le

/-! ## The steps of a path -/

/-- A step of a path before the text of its brackets is read. -/
inductive Step where
  | child (name : List Char)
  | descendant (name : List Char)
  | wildcard
  | bracket (selector : List Char)
  deriving DecidableEq

/-- The steps a text starts with, and why they stop before its end, if they do. -/
def steps (total : Nat) (cs : List Char) : List Step × Option PathError :=
  match cs with
  | [] => ([], none)
  | '.' :: '.' :: rest =>
    let name := rest.takeWhile isNamePart
    if name.isEmpty then ([], some (.expectedDescendant (total - cs.length)))
    else
      let (more, error) := steps total (rest.dropWhile isNamePart)
      (.descendant name :: more, error)
  | '.' :: '*' :: rest =>
    let (more, error) := steps total rest
    (.wildcard :: more, error)
  | '.' :: rest =>
    let name := rest.takeWhile isNamePart
    if name.isEmpty then ([], some (.expectedName (total - rest.length)))
    else
      let (more, error) := steps total (rest.dropWhile isNamePart)
      (.child name :: more, error)
  | '[' :: rest =>
    match _ : cutBracket 0 none rest with
    | some (selector, after) =>
      let (more, error) := steps total after
      (.bracket selector :: more, error)
    | none => ([], some (.unclosedBracket (total - cs.length)))
  | c :: _ => ([], some (.unexpectedChar c (total - cs.length)))
termination_by cs.length
decreasing_by
  · have := dropWhile_length_le isNamePart rest; simp only [List.length_cons]; omega
  · simp only [List.length_cons]; omega
  · have := dropWhile_length_le isNamePart rest; simp only [List.length_cons]; omega
  · have := cutBracket_length ‹_›; simp only [List.length_cons]; omega

/-! ## The tokens of a filter -/

/-- The characters of a number after the first. -/
def isNumberPart (c : Char) : Bool :=
  c.isDigit || c == '.'

/-- Whether a character continues a word. -/
def isWordPart (c : Char) : Bool :=
  Text.isAlphanumeric c || c == '_'

/-- The token of a word. -/
def wordToken? (word : String) : Option Token :=
  match word with
  | "true" => some (.bool true)
  | "false" => some (.bool false)
  | "null" => some .null
  | "in" => some (.op .isIn)
  | "nin" => some (.op .notIn)
  | _ => none

/-- A regular expression with its flags: `i` ignores case, and there is no other. -/
def flagged (pattern flags : List Char) : Except PathError Token :=
  match flags.find? (· != 'i') with
  | some c => .error (.unsupportedFlag c)
  | none =>
    .ok (.regex (String.ofList (if flags.isEmpty then pattern else "(?i)".toList ++ pattern)))

/-- The punctuation a text starts with, as a token and the number of its characters. -/
def punctuation? : List Char → Option (Token × Nat)
  | '[' :: _ => some (.openBracket, 1)
  | ']' :: _ => some (.closeBracket, 1)
  | ',' :: _ => some (.comma, 1)
  | '(' :: _ => some (.openParen, 1)
  | ')' :: _ => some (.closeParen, 1)
  | '=' :: '=' :: _ => some (.op .eq, 2)
  | '=' :: '~' :: _ => some (.op .like, 2)
  | '!' :: '=' :: _ => some (.op .ne, 2)
  | '!' :: _ => some (.not, 1)
  | '<' :: '=' :: _ => some (.op .le, 2)
  | '<' :: _ => some (.op .lt, 1)
  | '>' :: '=' :: _ => some (.op .ge, 2)
  | '>' :: _ => some (.op .gt, 1)
  | '&' :: '&' :: _ => some (.and, 2)
  | '|' :: '|' :: _ => some (.or, 2)
  | _ => none

/-- The token a text that does not start with a blank starts with, and what follows it. -/
def token (total : Nat) (c : Char) (cs : List Char) :
    Except PathError (Token × { rest : List Char // rest.length ≤ cs.length }) :=
  let position := total - (c :: cs).length
  if c = '@' ∨ c = '$' then
    .ok (.path (c :: (cutPath 0 none cs).1),
      ⟨(cutPath 0 none cs).2, by have := cutPath_length 0 none cs; omega⟩)
  else if isQuote c then
    match h : cutText c cs with
    | some (text, rest) => .ok (.text (String.ofList text), ⟨rest, Nat.le_of_lt (cutText_length h)⟩)
    | none => .error (.unterminatedText position)
  else if c = '/' then
    match h : cutRegex cs with
    | some (pattern, rest) =>
      match flagged pattern (rest.takeWhile Char.isAlpha) with
      | .ok t =>
        .ok (t, ⟨rest.dropWhile Char.isAlpha,
          Nat.le_trans (dropWhile_length_le _ _) (Nat.le_of_lt (cutRegex_length h))⟩)
      | .error e => .error e
    | none => .error (.unterminatedRegex position)
  else
    match punctuation? (c :: cs) with
    | some (t, n) => .ok (t, ⟨cs.drop (n - 1), by simp⟩)
    | none =>
      if c = '-' ∨ c.isDigit then
        let text := c :: cs.takeWhile isNumberPart
        match Double.readText? text with
        | some d => .ok (.number d, ⟨cs.dropWhile isNumberPart, dropWhile_length_le _ _⟩)
        | none => .error (.invalidNumber text)
      else if Text.isAlphabetic c then
        let word := c :: cs.takeWhile isWordPart
        match wordToken? (String.ofList word) with
        | some t => .ok (t, ⟨cs.dropWhile isWordPart, dropWhile_length_le _ _⟩)
        | none => .error (.unexpectedWord word)
      else .error (.unexpectedChar c position)

/-- The tokens of a filter. -/
def tokens (total : Nat) : List Char → Except PathError (List Token)
  | [] => .ok []
  | c :: cs =>
    if Text.isBlank c then tokens total cs
    else
      match token total c cs with
      | .error e => .error e
      | .ok (t, ⟨rest, _⟩) =>
        match tokens total rest with
        | .error e => .error e
        | .ok ts => .ok (t :: ts)
termination_by cs => cs.length
decreasing_by all_goals simp only [List.length_cons]; omega

end Mooring.Path
