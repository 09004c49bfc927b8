import SourceGuard.Text.Digits

/-!
# Texts in TOML

A text stands between quotes, on one line or between triple quotes on many lines. Between basic
quotes a backslash starts an escape, between literal quotes every character stands for itself. No
control characters stand in a text other than tabs, and line ends between triple quotes.

## Main definitions

* `Toml.Quote`: the two kinds of quotes
* `Toml.Quote.oneLine`, `Toml.Quote.manyLines`: what follows an opening quote
* `Toml.Quote.text?`: the text at the head of characters
-/

namespace SourceGuard.Toml

/-- The kinds of quotes. -/
inductive Quote where
  /-- Double quotes, with escapes. -/
  | basic
  /-- Single quotes, without escapes. -/
  | literal
deriving DecidableEq, Repr

/-- Whether a character may stand on a line: it is a tab or no control character of ASCII. -/
def isShown (c : Char) : Bool := c = '\t' || (0x20 ≤ c.toNat && c.toNat ≠ 0x7F)

/-- Whether a character is a space or a tab. -/
def isSpace (c : Char) : Bool := c = ' ' || c = '\t'

/-- The characters after the line end at their head, if there is one. -/
def newline? : List Char → Option (List Char)
  | '\n' :: rest => some rest
  | '\r' :: '\n' :: rest => some rest
  | _ => none

namespace Quote

/-- The quote itself. -/
def mark : Quote → Char
  | basic => '"'
  | literal => '\''

/-! ### Escapes -/

/-- The character of a number, which is no surrogate. -/
def scalar? (n : Nat) : Option Char :=
  if n < 0xD800 ∨ 0xDFFF < n ∧ n < 0x110000 then some (Char.ofNat n) else none

/-- The character that a number of so many hexadecimal digits names. -/
def numbered? (digits : Nat) (text : List Char) : Option Char :=
  let run := text.take digits
  if run.length = digits ∧ run.all (Text.isDigitOf 16) then scalar? (Text.numberOf 16 run)
  else none

/-- The character that an escape names and the length of the escape, its backslash left out. -/
def escape? : List Char → Option (Char × Nat)
  | 'b' :: _ => some ('\x08', 1)
  | 't' :: _ => some ('\t', 1)
  | 'n' :: _ => some ('\n', 1)
  | 'f' :: _ => some ('\x0c', 1)
  | 'r' :: _ => some ('\r', 1)
  | '"' :: _ => some ('"', 1)
  | '\\' :: _ => some ('\\', 1)
  | 'u' :: rest => (numbered? 4 rest).map ((·, 5))
  | 'U' :: rest => (numbered? 8 rest).map ((·, 9))
  | _ => none

/-- The number of spaces, tabs and line ends at the head of a text, in characters. -/
def spaceLength : List Char → Nat
  | '\r' :: '\n' :: rest => spaceLength rest + 2
  | c :: rest => if isSpace c || c = '\n' then spaceLength rest + 1 else 0
  | [] => 0

/-- What a backslash at the end of a line leaves out: the line end and all spaces, tabs and line
ends around it. -/
def continuation? (text : List Char) : Option Nat :=
  (newline? (text.dropWhile isSpace)).map fun _ => spaceLength text

/-! ### Texts -/

/-- A character put before the text that was read. -/
def push (c : Char) : List Char × List Char → List Char × List Char
  | (text, rest) => (c :: text, rest)

/-- The text after an opening quote, and what follows its closing quote; `skip` characters at the
head belong to an escape already taken. -/
def oneLine (q : Quote) : (skip : Nat) → List Char → Option (List Char × List Char)
  | _, [] => none
  | skip + 1, _ :: rest => oneLine q skip rest
  | 0, c :: rest =>
    if c = q.mark then some ([], rest)
    else if q = .basic ∧ c = '\\' then
      match escape? rest with
      | some (e, length) => (oneLine q length rest).map (push e)
      | none => none
    else if isShown c then (oneLine q 0 rest).map (push c)
    else none

/-- The number of quotes at the head of a text. -/
def run (q : Quote) (text : List Char) : Nat := (text.takeWhile (· = q.mark)).length

/-- The text after an opening triple quote, and what follows its closing one, before which up to two
more quotes belong to the text; `skip` characters at the head belong to an escape already taken. -/
def manyLines (q : Quote) : (skip : Nat) → List Char → Option (List Char × List Char)
  | _, [] => none
  | skip + 1, _ :: rest => manyLines q skip rest
  | 0, c :: rest =>
    if c = q.mark then
      let run := min (q.run (c :: rest)) 5
      if run < 3 then (manyLines q 0 rest).map (push c)
      else some (List.replicate (run - 3) q.mark, rest.drop (run - 1))
    else if q = .basic ∧ c = '\\' then
      match continuation? rest with
      | some length => manyLines q length rest
      | none =>
        match escape? rest with
        | some (e, length) => (manyLines q length rest).map (push e)
        | none => none
    else if c = '\r' then
      if rest.head? = some '\n' then manyLines q 0 rest else none
    else if isShown c || c = '\n' then (manyLines q 0 rest).map (push c)
    else none

/-- Characters of an escape already taken are passed over. -/
theorem oneLine_append (q : Quote) (w rest : List Char) :
    oneLine q w.length (w ++ rest) = oneLine q 0 rest := by
  induction w with
  | nil => rfl
  | cons c w ih => simpa [oneLine] using ih

/-- Characters of an escape already taken are passed over. -/
theorem manyLines_append (q : Quote) (w rest : List Char) :
    manyLines q w.length (w ++ rest) = manyLines q 0 rest := by
  induction w with
  | nil => rfl
  | cons c w ih => simpa [manyLines] using ih

/-- The text after an opening quote of either length; a line end right after a triple quote is left
out. -/
def opened (q : Quote) (text : List Char) : Option (List Char × List Char) :=
  if text.take 2 = [q.mark, q.mark] then
    let text := text.drop 2
    manyLines q 0 ((newline? text).getD text)
  else oneLine q 0 text

/-- The text at the head of characters. -/
def text? : List Char → Option (List Char × List Char)
  | '"' :: rest => opened .basic rest
  | '\'' :: rest => opened .literal rest
  | _ => none

end Quote

end SourceGuard.Toml
