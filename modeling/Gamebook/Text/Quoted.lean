import Gamebook.Unicode.Printable
import Gamebook.Text.Lines

namespace Gamebook
namespace Text

/-!
# Text shown in quotation marks

Messages that repeat a line or a list of names show it so that every character
can be told from every other: the quotation mark and the backslash are escaped,
the common controls have a letter, and a character that cannot be seen is
given by its code point.
-/

/-- A code point in lower-case hexadecimal, between braces. -/
def codePointEscape (c : Char) : List Char :=
  ['\\', 'u', '\x7b'] ++ Nat.toDigits 16 c.toNat ++ ['\x7d']

/-- How a character is shown between quotation marks. -/
def quotedChar (c : Char) : List Char :=
  if c = '\x00' then ['\\', '0']
  else if c = '\t' then ['\\', 't']
  else if c = '\r' then ['\\', 'r']
  else if c = '\n' then ['\\', 'n']
  else if c = '\\' then ['\\', '\\']
  else if c = '"' then ['\\', '"']
  else if Unicode.isPrintable c then [c]
  else codePointEscape c

/-- The text between quotation marks. -/
def quoted (cs : List Char) : List Char :=
  '"' :: cs.flatMap quotedChar ++ ['"']

/-- A list of texts, each in quotation marks, between brackets. -/
def quotedList (texts : List (List Char)) : List Char :=
  '[' :: join [',', ' '] (texts.map quoted) ++ [']']

end Text
end Gamebook
