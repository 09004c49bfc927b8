import SourceGuard.Toml.Moment
import SourceGuard.Toml.Number
import SourceGuard.Toml.Quote
import SourceGuard.Toml.Statement

/-!
# Reading TOML

A document is read statement by statement, each on a line of its own; lists may span lines and hold
comments, tables in braces may not. Values nest at most `depth` deep, and a dotted key has at most
as many parts.

## Main definitions

* `Toml.path?`, `Toml.value?`, `Toml.statement?`: the parts of a document
* `Toml.statements?`: all statements of a text
* `Toml.read?`: the table that a text says
-/

namespace SourceGuard.Toml

/-- The number of brackets and braces that may be open at once, and of parts of a dotted key. -/
def depth : Nat := 79

/-! ### Spaces and comments -/

/-- A text without the spaces and tabs at its head. -/
def skipSpace (text : List Char) : List Char := text.dropWhile isSpace

/-- A text without the spaces, tabs, line ends and comments at its head; `comment` says whether the
head stands in a comment. -/
def skipGap : (comment : Bool) → List Char → List Char
  | _, '\n' :: rest => skipGap false rest
  | _, '\r' :: '\n' :: rest => skipGap false rest
  | comment, c :: rest =>
    if comment then if isShown c then skipGap true rest else c :: rest
    else if isSpace c then skipGap false rest
    else if c = '#' then skipGap true rest
    else c :: rest
  | _, [] => []

/-- A text without the comment at its head. -/
def skipComment : List Char → List Char
  | '#' :: rest => rest.dropWhile isShown
  | text => text

/-- What follows the end of a line, before which spaces and a comment may stand. -/
def lineEnd? (text : List Char) : Option (List Char) :=
  match skipComment (skipSpace text) with
  | [] => some []
  | text => newline? text

/-! ### Keys -/

/-- Whether a character may stand in a key without quotes. -/
def isBare (c : Char) : Bool := c.isAlphanum || c = '_' || c = '-'

/-- The key at the head of a text. -/
def key? : List Char → Option (List Char × List Char)
  | '"' :: rest => Quote.basic.oneLine 0 rest
  | '\'' :: rest => Quote.literal.oneLine 0 rest
  | text =>
    let key := text.takeWhile isBare
    if key = [] then none else some (key, text.dropWhile isBare)

/-- Keys with points between them, at most `room`. -/
def path? : (room : Nat) → List Char → Option (List String × List Char)
  | 0, _ => none
  | room + 1, text => do
    let (key, text) ← key? (skipSpace text)
    match skipSpace text with
    | '.' :: rest =>
      let (keys, rest) ← path? room rest
      some (String.ofList key :: keys, rest)
    | rest => some ([String.ofList key], rest)

/-! ### Values -/

/-- What a reader of parts finds at the head of a text, and the rest. -/
abbrev Reader (α : Type) := List Char → Option (α × List Char)

/-- The characters of a text before a rest of it. -/
def spelling (text rest : List Char) : String :=
  String.ofList (text.take (text.length - rest.length))

/-- A number or a moment. -/
def number? (text : List Char) : Option (Value × List Char) :=
  match moment? text with
  | some rest => some (.moment (spelling text rest), rest)
  | none =>
    match float? text with
    | some rest => some (.float (spelling text rest), rest)
    | none => (integer? text).map fun (n, rest) => (.integer n, rest)

/-- A truth value. -/
def boolean? : List Char → Option (Value × List Char)
  | 't' :: 'r' :: 'u' :: 'e' :: rest => some (.boolean true, rest)
  | 'f' :: 'a' :: 'l' :: 's' :: 'e' :: rest => some (.boolean false, rest)
  | _ => none

/-- A value without values inside. -/
def scalar? (text : List Char) : Option (Value × List Char) :=
  match Quote.text? text with
  | some (s, rest) => some (.text (String.ofList s), rest)
  | none => boolean? text <|> number? text

/-- The items of a list after its opening bracket, at most `room`. -/
def items? (item : Reader Value) : (room : Nat) → Reader (List Value)
  | 0, _ => none
  | room + 1, text =>
    match skipGap false text with
    | ']' :: rest => some ([], rest)
    | text => do
      let (v, text) ← item text
      match skipGap false text with
      | ',' :: rest =>
        let (vs, rest) ← items? item room rest
        some (v :: vs, rest)
      | ']' :: rest => some ([v], rest)
      | _ => none

/-- A path, an equals sign and a value. -/
def pair? (item : Reader Value) : Reader (List String × Value) := fun text => do
  let (path, text) ← path? depth text
  let text ← marked? '=' text
  let (v, text) ← item (skipSpace text)
  some ((path, v), text)

/-- The pairs of a table after its opening brace or a comma, at most `room`. -/
def pairs? (item : Reader Value) : (room : Nat) → Reader (List (List String × Value))
  | 0, _ => none
  | room + 1, text => do
    let (p, text) ← pair? item text
    match skipSpace text with
    | ',' :: rest =>
      let (ps, rest) ← pairs? item room rest
      some (p :: ps, rest)
    | '\x7d' :: rest => some ([p], rest)
    | _ => none

/-- A table in braces after its opening brace. -/
def braced? (item : Reader Value) : Reader Value := fun text =>
  match skipSpace text with
  | '\x7d' :: rest => some (.table .inline [], rest)
  | text => do
    let (pairs, rest) ← pairs? item text.length text
    let entries ← Table.ofPairs? pairs
    some (.table .inline entries, rest)

/-- A value, in which at most `room` brackets and braces are open at once. -/
def value? : (room : Nat) → Reader Value
  | 0, text => scalar? text
  | room + 1, text =>
    match text with
    | '[' :: rest => do
      let (vs, rest) ← items? (value? room) text.length rest
      some (.list vs, rest)
    | '\x7b' :: rest => braced? (value? room) rest
    | text => scalar? text

/-! ### Documents -/

/-- A statement. -/
def statement? : Reader Statement
  | '[' :: '[' :: rest => do
    let (path, text) ← path? depth rest
    some (.element path, ← marked? ']' (← marked? ']' text))
  | '[' :: rest => do
    let (path, text) ← path? depth rest
    some (.table path, ← marked? ']' text)
  | text => do
    let ((path, v), text) ← pair? (value? depth) text
    some (.assign path v, text)

/-- The statements of a text, at most `room`. -/
def statementsIn? : (room : Nat) → List Char → Option (List Statement)
  | room, text =>
    match skipGap false text with
    | [] => some []
    | text =>
      match room with
      | 0 => none
      | room + 1 => do
        let (s, text) ← statement? text
        let rest ← statementsIn? room (← lineEnd? text)
        some (s :: rest)

/-- A text without the byte order mark at its head. -/
def skipMark : List Char → List Char
  | '\uFEFF' :: rest => rest
  | text => text

/-- The statements of a text. -/
def statements? (text : List Char) : Option (List Statement) :=
  let text := skipMark text
  statementsIn? text.length text

/-- The table that a text says. -/
def read? (text : String) : Option Table := do
  let statements ← statements? text.toList
  let document ← Document.ofStatements? statements
  some document.root

end SourceGuard.Toml
