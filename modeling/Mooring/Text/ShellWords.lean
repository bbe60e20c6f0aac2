set_option autoImplicit false

/-!
# Words of a command line

A command line is split into words as a shell splits it: at blanks, with quotes and backslashes, and
without any substitution. A number sign where a word would start begins a comment.
-/

namespace Mooring.Text

/-- Where in a command line the reader stands. -/
inductive ShellPlace where
  | between
  | betweenBackslash
  | word
  | wordBackslash
  | singleQuoted
  | doubleQuoted
  | doubleQuotedBackslash
  | comment
  deriving DecidableEq, Repr

/-- The blanks between words. -/
def isShellBlank (c : Char) : Bool :=
  c == ' ' || c == '\t' || c == '\n'

/-- The characters that a backslash keeps as they are inside double quotes. -/
def escapedInQuotes (c : Char) : Bool :=
  c == '$' || c == '\x60' || c == '"' || c == '\\'

/-- The words from a place on, with `word` (reversed) the one being read; none for an open quote. -/
def shellWordsFrom : ShellPlace → List Char → List Char → Option (List (List Char))
  | .between, _, [] | .comment, _, [] => some []
  | .betweenBackslash, word, [] | .wordBackslash, word, [] => some [('\\' :: word).reverse]
  | .word, word, [] => some [word.reverse]
  | .singleQuoted, _, [] | .doubleQuoted, _, [] | .doubleQuotedBackslash, _, [] => none
  | .between, word, c :: cs =>
    if c = '\'' then shellWordsFrom .singleQuoted word cs
    else if c = '"' then shellWordsFrom .doubleQuoted word cs
    else if c = '\\' then shellWordsFrom .betweenBackslash word cs
    else if isShellBlank c then shellWordsFrom .between word cs
    else if c = '#' then shellWordsFrom .comment word cs
    else shellWordsFrom .word (c :: word) cs
  | .betweenBackslash, word, c :: cs =>
    if c = '\n' then shellWordsFrom .between word cs else shellWordsFrom .word (c :: word) cs
  | .word, word, c :: cs =>
    if c = '\'' then shellWordsFrom .singleQuoted word cs
    else if c = '"' then shellWordsFrom .doubleQuoted word cs
    else if c = '\\' then shellWordsFrom .wordBackslash word cs
    else if isShellBlank c then (shellWordsFrom .between [] cs).map (word.reverse :: ·)
    else shellWordsFrom .word (c :: word) cs
  | .wordBackslash, word, c :: cs =>
    shellWordsFrom .word (if c = '\n' then word else c :: word) cs
  | .singleQuoted, word, c :: cs =>
    if c = '\'' then shellWordsFrom .word word cs
    else shellWordsFrom .singleQuoted (c :: word) cs
  | .doubleQuoted, word, c :: cs =>
    if c = '"' then shellWordsFrom .word word cs
    else if c = '\\' then shellWordsFrom .doubleQuotedBackslash word cs
    else shellWordsFrom .doubleQuoted (c :: word) cs
  | .doubleQuotedBackslash, word, c :: cs =>
    if c = '\n' then shellWordsFrom .doubleQuoted word cs
    else if escapedInQuotes c then shellWordsFrom .doubleQuoted (c :: word) cs
    else shellWordsFrom .doubleQuoted (c :: '\\' :: word) cs
  | .comment, word, c :: cs =>
    shellWordsFrom (if c = '\n' then .between else .comment) word cs

/-- The words of a command line; none when a quote is left open. -/
def shellWords? (line : String) : Option (List String) :=
  (shellWordsFrom .between [] line.toList).map (List.map String.ofList)

end Mooring.Text
