import SourceGuard.Json

/-!
# Reading JSON

A text says at most one value, with white space around it and between its parts. All escapes of a
text are read, also a pair of surrogates; a surrogate on its own and a control character without an
escape are refused, and so are a comma before a closing bracket and a number that starts with a zero
in vain. Only whole numbers are read, and no truth values.

## Main definitions

* `Json.text?`, `Json.number?`: a text or a number at the head of characters
* `Json.value?`: a value there
* `Json.read?`: the value that a text says
-/

namespace SourceGuard.Json

/-- What a reader of parts finds at the head of a text, and the rest. -/
abbrev Reader (α : Type) := List Char → Option (α × List Char)

/-- Whether a character is white space between the parts of a value. -/
def isSpace (c : Char) : Bool := c = ' ' || c = '\t' || c = '\n' || c = '\r'

/-- A text without the white space at its head. -/
def skipSpace (cs : List Char) : List Char := cs.dropWhile isSpace

/-! ### Texts -/

/-- The number of four hexadecimal digits at the head of a text. -/
def codeUnit? (cs : List Char) : Option Nat :=
  let run := cs.take 4
  if run.length = 4 ∧ run.all (Text.isDigitOf 16) then some (Text.numberOf 16 run) else none

/-- The character that one number names, or a pair of surrogates, and the length of the escape, its
backslash left out. -/
def numbered? (cs : List Char) : Option (Char × Nat) := do
  let first ← codeUnit? cs
  if first < 0xD800 ∨ 0xDFFF < first then return (Char.ofNat first, 5)
  match cs.drop 4 with
  | '\\' :: 'u' :: cs =>
    let second ← codeUnit? cs
    if first < 0xDC00 ∧ 0xDC00 ≤ second ∧ second ≤ 0xDFFF then
      return (Char.ofNat (0x10000 + (first - 0xD800) * 0x400 + (second - 0xDC00)), 11)
    else none
  | _ => none

/-- The character that an escape names and the length of the escape, its backslash left out. -/
def escape? : List Char → Option (Char × Nat)
  | '"' :: _ => some ('"', 1)
  | '\\' :: _ => some ('\\', 1)
  | '/' :: _ => some ('/', 1)
  | 'b' :: _ => some ('\x08', 1)
  | 'f' :: _ => some ('\x0c', 1)
  | 'n' :: _ => some ('\n', 1)
  | 'r' :: _ => some ('\r', 1)
  | 't' :: _ => some ('\t', 1)
  | 'u' :: rest => numbered? rest
  | _ => none

/-- A character put before the text that was read. -/
def push (c : Char) : List Char × List Char → List Char × List Char
  | (s, rest) => (c :: s, rest)

/-- The text after an opening quote, and what follows its closing quote; `skip` characters at the
head belong to an escape already taken. -/
def quoted? : (skip : Nat) → Reader (List Char)
  | _, [] => none
  | skip + 1, _ :: rest => quoted? skip rest
  | 0, c :: rest =>
    if c = '"' then some ([], rest)
    else if c = '\\' then
      match escape? rest with
      | some (e, length) => (quoted? length rest).map (push e)
      | none => none
    else if c.toNat < 0x20 then none
    else (quoted? 0 rest).map (push c)

/-- Characters of an escape already taken are passed over. -/
theorem quoted?_append (w rest : List Char) : quoted? w.length (w ++ rest) = quoted? 0 rest := by
  induction w with
  | nil => rfl
  | cons c w ih => simpa [quoted?] using ih

/-- A text. -/
def text? : Reader String
  | '"' :: rest => (quoted? 0 rest).map fun (s, rest) => (String.ofList s, rest)
  | _ => none

/-! ### Numbers -/

/-- Whether a character goes on with a whole number: a digit, or the mark of a fraction or of an
exponent. -/
def goesOn (c : Char) : Bool := Text.isDigitOf 10 c || c = '.' || c = 'e' || c = 'E'

/-- A whole number without a sign. -/
def natural? : Reader Nat := fun cs =>
  let digits := cs.takeWhile (Text.isDigitOf 10)
  let rest := cs.dropWhile (Text.isDigitOf 10)
  if digits = [] ∨ digits.head? = some '0' ∧ digits ≠ ['0'] ∨ rest.head?.any goesOn then none
  else some (Text.numberOf 10 digits, rest)

/-- A whole number. -/
def number? : Reader Int
  | '-' :: rest => (natural? rest).map fun (n, rest) => (-n, rest)
  | cs => (natural? cs).map fun (n, rest) => (n, rest)

/-! ### Values -/

section Parts

variable {α : Type} (part : Reader α) (closing : Char)

/-- Parts with commas between them up to the closing mark, at most `room`. -/
def parts? : (room : Nat) → Reader (List α)
  | 0, _ => none
  | room + 1, cs => do
    let (v, cs) ← part (skipSpace cs)
    match skipSpace cs with
    | [] => none
    | c :: rest =>
      if c = closing then return ([v], rest)
      if c ≠ ',' then none
      let (vs, rest) ← parts? room rest
      return (v :: vs, rest)

/-- What stands between brackets: nothing, or parts. -/
def bracketed? : Reader (List α) := fun cs =>
  match skipSpace cs with
  | [] => none
  | c :: rest => if c = closing then some ([], rest) else parts? part closing cs.length cs

end Parts

/-- A field of an object. -/
def field? (value : Reader Json) : Reader (String × Json) := fun cs => do
  let (name, cs) ← text? cs
  match skipSpace cs with
  | ':' :: cs =>
    let (v, rest) ← value (skipSpace cs)
    return ((name, v), rest)
  | _ => none

/-- A value, in which brackets are nested less than `room` deep. -/
def value? : (room : Nat) → Reader Json
  | 0, _ => none
  | room + 1, cs =>
    match cs with
    | '"' :: _ => (text? cs).map fun (s, rest) => (text s, rest)
    | '[' :: rest =>
      (bracketed? (value? room) ']' rest).map fun (items, rest) => (list items, rest)
    | '\x7b' :: rest =>
      (bracketed? (field? (value? room)) '\x7d' rest).map fun (fields, rest) =>
        (object fields, rest)
    | _ => (number? cs).map fun (n, rest) => (number n, rest)

/-- The value that a text says. No text has room for more nested brackets than characters. -/
def read? (s : String) : Option Json := do
  let (v, rest) ← value? s.length (skipSpace s.toList)
  if skipSpace rest = [] then some v else none

end SourceGuard.Json
