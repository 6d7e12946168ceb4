/-
  Text/Quoted.lean --- a text in double quotes, for messages.

  Graphic characters stand for themselves, except the quote and the backslash,
  which are escaped.  The other characters are written as a short escape where
  there is one, and as their code point in braces otherwise, so that a quoted
  text is always a single visible line.
-/
import LoadWatch.Text.Graphic

set_option autoImplicit false

namespace LoadWatch.Text

/-- The code point of a character in braces, in lower case hexadecimal digits. -/
def codePointEscape (c : Char) : List Char :=
  ['\\', 'u', '\x7b'] ++ Nat.toDigits 16 c.toNat ++ ['\x7d']

/-- How a character is written between the quotes. -/
def quotedCharacter (c : Char) : List Char :=
  if c = '\x00' then ['\\', '0']
  else if c = '\t' then ['\\', 't']
  else if c = '\r' then ['\\', 'r']
  else if c = '\n' then ['\\', 'n']
  else if c = '"' then ['\\', '"']
  else if c = '\\' then ['\\', '\\']
  else if isGraphic c then [c]
  else codePointEscape c

/-- The text between double quotes, with everything that is not graphic escaped. -/
def quoted (text : String) : String :=
  String.ofList (['"'] ++ text.toList.flatMap quotedCharacter ++ ['"'])

end LoadWatch.Text
