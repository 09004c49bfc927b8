import SourceGuard.Text.Digits

/-!
# Texts for terminals

A terminal obeys some control characters instead of showing them. A text that comes from elsewhere
is shown with these characters by number, so that it cannot move the cursor or change a colour.
Tabs and line ends stay as they are.

## Main definitions

* `defused`: a text with the characters that steer a terminal by number
-/

namespace SourceGuard.Text

/-- A character as a terminal may show it: the escape, the bell, the backspace, the form feed and
the deletion by two digits, and the controls above them by their number in braces. -/
def defuseChar (c : Char) : List Char :=
  let n := c.toNat
  if n = 0x1B ∨ n = 0x07 ∨ n = 0x08 ∨ n = 0x0C ∨ n = 0x7F then
    ['\\', 'x'] ++ (if n < 0x10 then ['0'] else []) ++ hexadecimal n
  else if 0x80 ≤ n ∧ n ≤ 0x9F then ['\\', 'u', '\x7b'] ++ hexadecimal n ++ ['\x7d']
  else [c]

/-- A text with the characters that steer a terminal by number. -/
def defused (text : String) : String := String.ofList (text.toList.flatMap defuseChar)

end SourceGuard.Text
