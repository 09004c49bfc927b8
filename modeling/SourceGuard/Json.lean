import SourceGuard.Event
import SourceGuard.Text.Digits

/-!
# JSON texts

Values are written without spaces, the fields of an object in their order. In a text, quotes and
backslashes are escaped, control characters below the space have short escapes or four hexadecimal
digits, and all other characters stand for themselves.

## Main definitions

* `Json`: the values
* `Json.chars`, `Json.toText`: the written form
* `Event.toJson`: an event as an object
-/

namespace SourceGuard

/-- A JSON value. -/
inductive Json where
  | number (n : Int)
  | text (s : String)
  | list (items : List Json)
  | object (fields : List (String × Json))

namespace Json

/-- A character inside a quoted text. -/
def escape (c : Char) : List Char :=
  if c = '"' then ['\\', '"']
  else if c = '\\' then ['\\', '\\']
  else if c = '\x08' then ['\\', 'b']
  else if c = '\x0c' then ['\\', 'f']
  else if c = '\n' then ['\\', 'n']
  else if c = '\r' then ['\\', 'r']
  else if c = '\t' then ['\\', 't']
  else if c.toNat < 0x20 then
    let digits := Text.hexadecimal c.toNat
    ['\\', 'u'] ++ List.replicate (4 - digits.length) '0' ++ digits
  else [c]

/-- A quoted text. -/
def quote (cs : List Char) : List Char := '"' :: cs.flatMap escape ++ ['"']

/-- Parts between brackets, with commas between them. -/
def bracket (opening closing : Char) (parts : List (List Char)) : List Char :=
  opening :: List.intercalate [','] parts ++ [closing]

mutual

/-- The written form of a value, as characters. -/
def chars : Json → List Char
  | number n => Text.signedDecimal n
  | text s => quote s.toList
  | list items => bracket '[' ']' (itemChars items)
  | object fields => bracket '\x7b' '\x7d' (fieldChars fields)

/-- The written forms of items. -/
def itemChars : List Json → List (List Char)
  | [] => []
  | item :: rest => chars item :: itemChars rest

/-- The written forms of fields. -/
def fieldChars : List (String × Json) → List (List Char)
  | [] => []
  | (name, value) :: rest => (quote name.toList ++ ':' :: chars value) :: fieldChars rest

end

/-- The written form of a value. -/
def toText (j : Json) : String := String.ofList j.chars

end Json

/-- A field's value. -/
def FieldValue.toJson : FieldValue → Json
  | number n => .number n
  | quoted s => .text s
  | plain s => .text s

/-- An event as an object of its message and fields. -/
def Event.toJson (e : Event) : Json :=
  .object (("message", .text e.message) :: e.fields.map fun (name, value) => (name, value.toJson))

end SourceGuard
