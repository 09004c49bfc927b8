import SourceGuard.Text.Digits
import SourceGuard.Text.EscapeTable

/-!
# Quoted texts

A text in quotes, on one line and with nothing in it that could not be seen: quotes, backslashes,
line ends, tabs and zeros have short escapes, and all other hidden characters are written by number.

## Main definitions

* `quoted`: the quoted form of a text
* `quotedList`: the quoted forms of texts, in brackets
-/

namespace SourceGuard.Text

/-- A character by its number. -/
def byNumber (c : Char) : List Char :=
  ['\\', 'u', '\x7b'] ++ hexadecimal c.toNat ++ ['\x7d']

/-- A character inside a quoted text. -/
def showChar (c : Char) : List Char :=
  if c = '\x00' then ['\\', '0']
  else if c = '\t' then ['\\', 't']
  else if c = '\r' then ['\\', 'r']
  else if c = '\n' then ['\\', 'n']
  else if c = '"' then ['\\', '"']
  else if c = '\\' then ['\\', '\\']
  else if isHidden c then byNumber c
  else [c]

/-- The quoted form of a text. -/
def quoted (text : String) : String :=
  String.ofList ('"' :: text.toList.flatMap showChar ++ ['"'])

/-- The quoted forms of texts, in brackets. -/
def quotedList (texts : List String) : String :=
  "[" ++ String.intercalate ", " (texts.map quoted) ++ "]"

end SourceGuard.Text
