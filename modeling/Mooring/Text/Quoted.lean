import Mooring.Text.Letters

set_option autoImplicit false

/-!
# Quoted text in messages

A text quoted so that a reader of a message sees what it holds: quotes, backslashes and control
characters escaped, and any character that would not show, or would join the one before it,
written by its code point.
-/

namespace Mooring.Text

/-- A number in hexadecimal digits, in lower case. -/
def hexText (n : Nat) : List Char :=
  Nat.toDigits 16 n

/-- Whether a character shows by itself. -/
def isVisible (c : Char) : Bool :=
  if c.toNat < 128 then 32 ≤ c.toNat && c.toNat < 127
  else !graphemeExtend.contains c && !unprintable.contains c

/-- One character of a quoted text. -/
def quotedChar (c : Char) : List Char :=
  match c with
  | '"' => ['\\', '"']
  | '\\' => ['\\', '\\']
  | '\n' => ['\\', 'n']
  | '\t' => ['\\', 't']
  | '\r' => ['\\', 'r']
  | '\x00' => ['\\', '0']
  | c => if isVisible c then [c] else ['\\', 'u', '\x7b'] ++ hexText c.toNat ++ ['\x7d']

/-- A text in quotes. -/
def quoted (s : String) : String :=
  String.ofList ('"' :: s.toList.flatMap quotedChar ++ ['"'])

end Mooring.Text
