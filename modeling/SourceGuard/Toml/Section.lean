import SourceGuard.Toml.Quote

/-!
# Writing TOML

Settings are written in sections, each with a header and one line per key; only lists of two and
more texts take several lines. A text is written between the first kind of quotes that needs no
escapes: basic quotes, literal quotes, triple basic quotes, triple literal quotes. If all of them
do, it is escaped between basic quotes, which are triple if it has line ends.

## Main definitions

* `Toml.Style`, `Toml.Style.choose`: the quotes of a text
* `Toml.Field`, `Toml.Section`: settings and sections
* `Toml.write`: the written form of sections
-/

namespace SourceGuard.Toml

/-! ### Texts -/

/-- How a text is written. -/
structure Style where
  /-- The kind of its quotes. -/
  quote : Quote
  /-- Whether they are triple. -/
  triple : Bool
deriving DecidableEq, Repr

/-- Whether a text has a control character that cannot be written as it is. -/
def hasControl (s : List Char) : Bool := s.any fun c => !isShown c && c ≠ '\n'

/-- Whether no run of a mark is longer than a limit; `run` marks stand before the text. -/
def runsWithin (limit : Nat) (mark : Char) : (run : Nat) → List Char → Bool
  | _, [] => true
  | run, c :: rest =>
    if c = mark then run < limit && runsWithin limit mark (run + 1) rest
    else runsWithin limit mark 0 rest

/-- The style in which a text is written. -/
def Style.choose (s : List Char) : Style :=
  let plain := !hasControl s
  let escapes := s.contains '\\'
  let lines := s.contains '\n'
  if plain && !escapes && !lines && runsWithin 0 '"' 0 s then ⟨.basic, false⟩
  else if plain && !lines && runsWithin 0 '\'' 0 s then ⟨.literal, false⟩
  else if plain && !escapes && runsWithin 2 '"' 0 s then ⟨.basic, true⟩
  else if plain && runsWithin 2 '\'' 0 s then ⟨.literal, true⟩
  else ⟨.basic, lines⟩

/-- A hexadecimal digit in upper case. -/
def upperDigit (d : Nat) : Char := if d < 10 then Char.ofNat (d + 48) else Char.ofNat (d + 55)

/-- The escape of a character by its number. -/
def numberedEscape (c : Char) : List Char :=
  ['\\', 'u', '0', '0', upperDigit (c.toNat / 16), upperDigit (c.toNat % 16)]

/-- A character other than a quote between basic quotes, which are triple or not. -/
def escape (triple : Bool) (c : Char) : List Char :=
  if c = '\\' then ['\\', '\\']
  else if c = '\x08' then ['\\', 'b']
  else if c = '\t' then ['\\', 't']
  else if c = '\n' then if triple then ['\n'] else ['\\', 'n']
  else if c = '\x0c' then ['\\', 'f']
  else if c = '\r' then ['\\', 'r']
  else if isShown c then [c]
  else numberedEscape c

/-- The number of quotes in a row that need no escape. -/
def freeQuotes (triple : Bool) : Nat := if triple then 2 else 0

/-- A text between basic quotes; `run` quotes without an escape stand before it. -/
def basicBody (triple : Bool) : (run : Nat) → List Char → List Char
  | _, [] => []
  | run, c :: rest =>
    if c = '"' then
      if run < freeQuotes triple then '"' :: basicBody triple (run + 1) rest
      else '\\' :: '"' :: basicBody triple 0 rest
    else escape triple c ++ basicBody triple 0 rest

namespace Style

/-- The quotes of a style. -/
def marks (style : Style) : List Char := List.replicate (if style.triple then 3 else 1) style.quote.mark

/-- What stands between the quotes; a text with line ends starts on a line of its own. -/
def body (style : Style) (s : List Char) : List Char :=
  (if style.triple && s.contains '\n' then ['\n'] else []) ++
    match style.quote with
    | .basic => basicBody style.triple 0 s
    | .literal => s

/-- The written form of a text in a style. -/
def write (style : Style) (s : List Char) : List Char := style.marks ++ style.body s ++ style.marks

end Style

/-- The written form of a text. -/
def writeText (s : String) : List Char := (Style.choose s.toList).write s.toList

/-! ### Settings and sections -/

/-- What a setting holds. -/
inductive Field where
  | text (s : String)
  | count (n : Nat)
  | flag (b : Bool)
  | texts (items : List String)
deriving DecidableEq, Repr

/-- A header and the settings below it. -/
structure Section where
  /-- The keys of the header. -/
  path : List String
  /-- The settings. -/
  fields : List (String × Field)
deriving DecidableEq, Repr

/-- The line of an item of a list. -/
def itemLine (s : String) : List Char := "    ".toList ++ writeText s ++ [',', '\n']

/-- The written form of a list of texts. -/
def writeTexts : List String → List Char
  | [] => ['[', ']']
  | [s] => '[' :: writeText s ++ [']']
  | items => '[' :: '\n' :: items.flatMap itemLine ++ [']']

namespace Field

/-- The written form of what a setting holds. -/
def write : Field → List Char
  | text s => writeText s
  | count n => Text.decimal n
  | flag true => "true".toList
  | flag false => "false".toList
  | texts items => writeTexts items

end Field

namespace Section

/-- The header of a section. -/
def header (s : Section) : List Char :=
  '[' :: List.intercalate ['.'] (s.path.map String.toList) ++ [']', '\n']

/-- The line of a setting. -/
def line (field : String × Field) : List Char :=
  field.1.toList ++ " = ".toList ++ field.2.write ++ ['\n']

/-- The written form of a section. -/
def write (s : Section) : List Char := s.header ++ s.fields.flatMap line

end Section

/-- The written form of sections, with an empty line between two of them. -/
def write (sections : List Section) : List Char :=
  List.intercalate ['\n'] (sections.map Section.write)

end SourceGuard.Toml
