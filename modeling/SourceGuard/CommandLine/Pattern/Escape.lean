import SourceGuard.CommandLine.Pattern
import SourceGuard.Text.Blank
import SourceGuard.Text.Digits

/-!
# Blanks and escapes in patterns

Where a pattern is *spaced*, blanks and remarks between its parts are passed over; a remark runs from
a number sign to the end of its line. An escape is a backslash with what makes a character of it: a
mark, a letter of its own, or hexadecimal digits, which may be spaced too.

## Main definitions

* `Pattern.skip`: a text without the blanks and remarks at its head
* `Pattern.escape?`: what stands after a backslash
-/

namespace SourceGuard.Pattern

/-! ### Blanks -/

/-- A text without the blanks and remarks at its head, which may start inside a remark. -/
def afterBlanks : (inRemark : Bool) → List Char → List Char
  | _, [] => []
  | true, c :: rest => afterBlanks (c ≠ '\n') rest
  | false, c :: rest =>
    if c = '#' then afterBlanks true rest
    else if Text.isBlank c then afterBlanks false rest
    else c :: rest

/-- The text that counts: blanks and remarks at its head are passed over if it is spaced. -/
def skip (spaced : Bool) (text : List Char) : List Char :=
  if spaced then afterBlanks false text else text

/-! ### Escapes -/

/-- So many hexadecimal digits, and the rest. -/
def hexDigits? (spaced : Bool) : (count : Nat) → List Char → Option (List Char × List Char)
  | 0, text => some ([], text)
  | count + 1, text =>
    match skip spaced text with
    | [] => none
    | d :: rest =>
      if Text.isDigitOf 16 d then
        (hexDigits? spaced count rest).map fun (digits, rest) => (d :: digits, rest)
      else none

/-- The character whose code point is spelled by so many digits, and the rest. Two digits are those
of a byte. -/
def byDigits? (spaced : Bool) (count : Nat) (text : List Char) : Option (Pattern × List Char) := do
  let (digits, rest) ← hexDigits? spaced count text
  let code := Text.numberOf 16 digits
  if code.isValidChar then some (.literal { code, isByte := count = 2 }, rest) else none

/-- The control characters with a letter of their own. -/
def controls : List (Char × Nat) := [('a', 7), ('t', 9), ('n', 10), ('v', 11), ('f', 12), ('r', 13)]

/-- What stands after a backslash, and the rest. Every mark can be escaped but those that stand for
a start or an end of a word. -/
def escape? (spaced : Bool) : List Char → Option (Pattern × List Char)
  | [] => none
  | c :: rest =>
    if c = 'x' then byDigits? spaced 2 rest
    else if c = 'u' then byDigits? spaced 4 rest
    else if c = 'U' then byDigits? spaced 8 rest
    else if c = 'd' ∨ c = 's' ∨ c = 'w' then some (.category false, rest)
    else if c = 'D' ∨ c = 'S' ∨ c = 'W' then some (.category true, rest)
    else if c = 'A' ∨ c = 'z' then some (.anchor, rest)
    else if c = 'b' ∨ c = 'B' ∨ c = '<' ∨ c = '>' then some (.boundary, rest)
    else
      match controls.find? (·.1 = c) with
      | some (_, code) => some (.literal { code }, rest)
      | none => if c.toNat < 0x80 ∧ !c.isAlphanum then some (.literal (.ofChar c), rest) else none

end SourceGuard.Pattern
