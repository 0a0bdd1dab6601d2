import OrgAccess.Text.Printable

/-!
# Quoted text in messages

A message that repeats what somebody wrote quotes it, so that its bounds and its invisible
characters can be seen. Visible characters stand as they are; the quote, the backslash and the
usual control characters get a short escape, and every other character its code point in braces.
-/

namespace OrgAccess.Text

/-- The lower-case hexadecimal digits of a code point, without leading zeros. -/
def codePointDigits (code : Nat) : List Char :=
  Nat.toDigits 16 code

/-- How a character is written between quotes. -/
def escape (character : Char) : List Char :=
  if character = '"' ∨ character = '\\' then ['\\', character]
  else if character = '\x00' then ['\\', '0']
  else if character = '\t' then ['\\', 't']
  else if character = '\n' then ['\\', 'n']
  else if character = '\r' then ['\\', 'r']
  else if isVisible character && !isExtending character then [character]
  else ['\\', 'u', '{'] ++ codePointDigits character.toNat ++ ['}']

/-- A text in quotes, for diagnostics. -/
def quoted (text : String) : String :=
  String.ofList ('"' :: text.toList.flatMap escape ++ ['"'])

/-- A list of texts, each quoted, in brackets. -/
def quotedList (texts : List String) : String :=
  "[" ++ ", ".intercalate (texts.map quoted) ++ "]"

end OrgAccess.Text
