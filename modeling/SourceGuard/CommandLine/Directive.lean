import SourceGuard.CommandLine.Pattern.Reader
import SourceGuard.Event
import SourceGuard.Text.Blank
import SourceGuard.Text.Digits
import SourceGuard.Text.LetterTable

/-!
# Directives of log filters

A directive names a level, a target, or both with an equals sign between them, and admits the events
of targets that start with its own up to its level. After the target, brackets can hold the name of
a span, and braces in them the name of a field that an event must have. Directives with the name of
a span, or with a value for the field, say nothing about events outside spans.

A directive is read as if there were no blanks at its ends, but its parts are then taken from the
text with the blanks, at the same distances from its head.

## Main definitions

* `Directive`, `Directive.covers`
* `Directive.ofText`: the directive that a text spells, or why it spells none
-/

namespace SourceGuard

/-- What a directive says about events. -/
structure Directive where
  /-- The start of the targets, of which there are others if it is missing. -/
  target? : Option String := none
  /-- The field that an event must have, if there is one. -/
  field? : Option String := none
  /-- Whether the directive is about events in spans only. -/
  spansOnly : Bool := false
  /-- The greatest detail of the admitted levels, zero for none. -/
  detail : Nat := 5
deriving DecidableEq, Repr

/-- Why a text is no directive. -/
inductive DirectiveFault where
  | shape
  | level
  /-- The value of a field is neither a number nor a pattern. -/
  | pattern (fault : PatternFault)
deriving DecidableEq, Repr

/-- A fault in words. -/
def DirectiveFault.message : DirectiveFault → String
  | shape => "invalid filter directive"
  | level =>
    "error parsing level filter: expected one of \"off\", \"error\", \"warn\", \"info\", " ++
      "\"debug\", \"trace\", or a number 0-5"
  | pattern fault => "invalid field filter: " ++ fault.message

namespace Directive

/-! ### Levels -/

/-- The names of the details, from none. -/
def levelNames : List String := ["off", "error", "warn", "info", "debug", "trace"]

/-- The detail that a number without leading signs spells. -/
def numberDetail? (text : List Char) : Option Nat :=
  if text ≠ [] ∧ text.all (Text.isDigitOf 10) ∧ Text.numberOf 10 text ≤ 5 then
    some (Text.numberOf 10 text)
  else none

/-- The detail that a text spells, by name in letters of any case or by number. -/
def detail? (text : List Char) : Option Nat :=
  match text with
  | '+' :: digits => numberDetail? digits
  | _ =>
    let lower := String.ofList (text.map Char.toLower)
    (levelNames.findIdx? (· = lower)).or (numberDetail? text)

/-- A directive with the detail after its equals sign, every one if none is given. -/
def withDetail (d : Directive) (text : List Char) : Except DirectiveFault Directive :=
  if text = [] then .ok { d with detail := 5 }
  else
    match detail? text with
    | some detail => .ok { d with detail }
    | none => .error .level

/-! ### Parts -/

/-- The length of characters in bytes. -/
def width (text : List Char) : Nat := text.foldr (fun c bytes => c.utf8Size + bytes) 0

/-- The characters of a text that start from some distance in bytes on. -/
def dropWidth : (distance : Nat) → List Char → List Char
  | 0, text => text
  | _, [] => []
  | distance, c :: rest => dropWidth (distance - c.utf8Size) rest

/-- The characters of a text that start before some distance in bytes. -/
def takeWidth : (distance : Nat) → List Char → List Char
  | 0, _ => []
  | _, [] => []
  | distance, c :: rest => c :: takeWidth (distance - c.utf8Size) rest

/-- The characters of a text from one distance to another. -/
def cut (text : List Char) (start stop : Nat) : List Char :=
  takeWidth (stop - start) (dropWidth start text)

/-- A directive with a field, which may have a value. -/
def withField (d : Directive) (text : List Char) : Except DirectiveFault Directive :=
  let name := text.takeWhile (· ≠ '=')
  let named : Directive := { d with field? := some (String.ofList name) }
  if text = [] then .error .shape
  else
    match text.drop name.length with
    | [] => .ok named
    | _ :: text =>
      match Pattern.textFault? (text.takeWhile (· ≠ '=')) with
      | some fault => .error (.pattern fault)
      | none => .ok { named with spansOnly := true }

/-- A directive whose closing bracket was read, before what is left of it. -/
def afterBracket (whole : List Char) (d : Directive) (distance : Nat) :
    List Char → Except DirectiveFault Directive
  | [] => .ok d
  | '=' :: _ => d.withDetail (dropWidth (distance + 1) whole)
  | _ => .error .shape

/-- A directive whose opening brace was read, before what is left of it. -/
def afterBrace (whole : List Char) (d : Directive) (distance : Nat) (text : List Char) :
    Except DirectiveFault Directive :=
  let field := text.takeWhile (· ≠ '}')
  let stop := distance + width field
  match text.drop field.length with
  | [] => .error .shape
  | _ :: rest => do
    -- a field that is none is found before what is wrong behind it
    let d ← d.withField (cut whole distance stop)
    match rest with
    | ']' :: rest => afterBracket whole d (stop + 2) rest
    | _ => .error .shape

/-- A directive whose opening bracket was read, before what is left of it. -/
def inBracket (whole : List Char) (d : Directive) (distance : Nat) (text : List Char) :
    Except DirectiveFault Directive :=
  let span := text.takeWhile fun c => c ≠ ']' && c ≠ '{'
  let stop := distance + width span
  match text.drop span.length with
  | ']' :: rest => afterBracket whole { d with spansOnly := true } (stop + 1) rest
  | '{' :: rest =>
    afterBrace whole { d with spansOnly := cut whole distance stop ≠ [] } (stop + 1) rest
  | _ => .error .shape

/-- Whether a directive without brackets at its head may start with a character. -/
def isStart (c : Char) : Bool := c = '-' || c = ':' || c = '_' || Text.isWordChar c

/-- The directive that characters spell. -/
def ofChars (whole : List Char) : Except DirectiveFault Directive :=
  let text := Text.trimBlankChars whole
  let word := text.takeWhile fun c => c ≠ '=' && c ≠ '['
  let stop := width word
  let aimed : Directive := { target? := some (String.ofList (cut whole 0 stop)) }
  match text with
  | [] => .error .shape
  | '[' :: rest => inBracket whole {} 1 rest
  | c :: _ =>
    if !isStart c then .error .shape
    else
      match text.drop word.length with
      | '=' :: _ => aimed.withDetail (dropWidth (stop + 1) whole)
      | '[' :: rest => inBracket whole aimed (stop + 1) rest
      | _ =>
        match detail? whole with
        | some detail => .ok { detail }
        | none => .ok { target? := some (String.ofList whole) }

/-- The directive that a text spells. -/
def ofText (text : String) : Except DirectiveFault Directive := ofChars text.toList

/-! ### Events -/

/-- Whether a directive is about an event of a target. -/
def covers (d : Directive) (target : String) (e : Event) : Bool :=
  !d.spansOnly && d.target?.all (·.toList.isPrefixOf target.toList) && d.field?.all e.hasField

/-- How much of a target a directive names, none if it is about all. -/
def reach (d : Directive) : Nat := d.target?.elim 0 (·.utf8ByteSize + 1)

/-- Whether a directive counts before another: it names more of the target, or a field, or a field
that is later in the alphabet, or is the same. -/
def outranks (d other : Directive) : Bool :=
  other.reach < d.reach ||
    (other.reach = d.reach &&
      match other.field?, d.field? with
      | none, _ => true
      | some _, none => false
      | some name, some later => name ≤ later)

end Directive

end SourceGuard
