set_option autoImplicit false

/-!
# Finding and replacing inside a text

Substring search and replacement on character lists, lines, and the ASCII folding of letters.
Everything here recurses on the text alone, so that it computes inside a proof as well.
-/

namespace Mooring.Text

/-- Whether `token` stands somewhere in the text. -/
def occursIn (token : List Char) : List Char → Bool
  | [] => token.isEmpty
  | c :: cs => token.isPrefixOf (c :: cs) || occursIn token cs

/-- The text with every occurrence of `token`, read from the left and without overlap, replaced
by `value`; the first `skip` characters belong to an occurrence already replaced. -/
def replaceFrom (token value : List Char) : Nat → List Char → List Char
  | _, [] => []
  | skip + 1, _ :: cs => replaceFrom token value skip cs
  | 0, c :: cs =>
    if token.isPrefixOf (c :: cs) then
      value ++ replaceFrom token value (token.length - 1) cs
    else c :: replaceFrom token value 0 cs

/-- The text with every occurrence of a non-empty `token` replaced by `value`. -/
def replaceAll (token value text : List Char) : List Char :=
  replaceFrom token value 0 text

/-- The pieces of a text between occurrences of `sep`, with `piece` (reversed) the one being
read. -/
def splitFrom (sep : Char) : List Char → List Char → List (List Char)
  | piece, [] => [piece.reverse]
  | piece, c :: cs =>
    if c = sep then piece.reverse :: splitFrom sep [] cs else splitFrom sep (c :: piece) cs

/-- The pieces of a text between occurrences of `sep`, at least one. -/
def splitAt (sep : Char) (cs : List Char) : List (List Char) :=
  splitFrom sep [] cs

/-- What follows the last occurrence of `sep`, the whole text when there is none. -/
def afterLast (sep : Char) (cs : List Char) : List Char :=
  (splitAt sep cs).getLastD []

/-- A line without the carriage return that ends it. -/
def withoutReturn (cs : List Char) : List Char :=
  if cs.getLast? = some '\r' then cs.dropLast else cs

/-- The lines of a text: a line feed, or a carriage return and a line feed, ends each; what follows
the last line feed is a line only if it is not empty. -/
def lines (s : String) : List String :=
  let pieces := splitAt '\n' s.toList
  let ended := pieces.dropLast.map fun l => String.ofList (withoutReturn l)
  let rest := pieces.getLastD []
  if rest.isEmpty then ended else ended ++ [String.ofList rest]

/-- An ASCII letter in lower case, any other character unchanged. -/
def lowerAscii (c : Char) : Char :=
  if 'A' ≤ c ∧ c ≤ 'Z' then Char.ofNat (c.toNat + 32) else c

/-- Equality up to the case of ASCII letters. -/
def eqIgnoringAsciiCase (a b : String) : Bool :=
  a.toList.map lowerAscii == b.toList.map lowerAscii

/-- The characters whose lower-case form is one ASCII letter, in that form: `A` to `Z` and the
Kelvin sign. Every other character is unchanged. -/
def lowerToAscii (c : Char) : Char :=
  if c = '\u212a' then 'k' else lowerAscii c

/-- Whether the text, in lower case, holds the ASCII phrase. -/
def holdsPhrase (phrase text : String) : Bool :=
  occursIn phrase.toList (text.toList.map lowerToAscii)

/-- What is left of `cs` after the characters of `start`, if it begins with them. -/
def dropStart? : List Char → List Char → Option (List Char)
  | [], cs => some cs
  | _ :: _, [] => none
  | p :: ps, c :: cs => if p = c then dropStart? ps cs else none

/-- A text cut before its first character that satisfies `p`. -/
def cutBefore (p : Char → Bool) (cs : List Char) : List Char × List Char :=
  (cs.takeWhile (fun c => !p c), cs.dropWhile (fun c => !p c))

theorem dropStart?_append (start cs : List Char) : dropStart? start (start ++ cs) = some cs := by
  induction start with
  | nil => rfl
  | cons p ps ih => simp [dropStart?, ih]

/-- Only a text that begins with `start` can lose it. -/
theorem eq_append_of_dropStart? {start cs rest : List Char} (h : dropStart? start cs = some rest) :
    cs = start ++ rest := by
  induction start generalizing cs with
  | nil => simpa [dropStart?] using h
  | cons p ps ih =>
    cases cs with
    | nil => simp [dropStart?] at h
    | cons c cs =>
      simp only [dropStart?] at h
      split at h
      · next hp => rw [ih h, hp]; rfl
      · simp at h

end Mooring.Text
