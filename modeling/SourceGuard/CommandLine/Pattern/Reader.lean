import SourceGuard.CommandLine.Pattern.SetReader
import SourceGuard.Text.LetterTable

/-!
# Reading patterns

A pattern is read from left to right, the open groups on a stack. Groups may have a name or settings;
settings may also stand alone, for the rest of their group. Nothing can be asked of what stands before
or after a pattern, and no number of repetitions can be given.

The value of a field in a log filter is a number if it can be one, and a pattern otherwise.

## Main definitions

* `Pattern.Settings.ofText?`: the settings that letters make
* `Pattern.Level`: a group whose closing bracket was not read yet
* `Pattern.ofText?`: the pattern that a text is
* `Pattern.textFault?`: why a text cannot be the value of a field
-/

namespace SourceGuard.Pattern

/-! ### Groups -/

/-- The letters of settings. -/
def settingLetters : List Char := ['i', 'm', 's', 'U', 'u', 'R', 'x']

/-- What letters say about a setting: those behind a hyphen negate it. -/
def saysOf? (letter : Char) (text : List Char) : Option Bool :=
  if text.contains letter then some ((text.takeWhile (· ≠ '-')).contains letter) else none

/-- The settings that letters make, each at most once, and with them at most one hyphen, which is not
the last. -/
def Settings.ofText? (text : List Char) : Option Settings :=
  if text.all (fun c => c = '-' || settingLetters.contains c) ∧
      text.eraseDups.length = text.length ∧ text.getLast? ≠ some '-' then
    some
      { unicode? := saysOf? 'u' text, caseless? := saysOf? 'i' text, spaced? := saysOf? 'x' text }
  else none

/-- Whether a text is the name of a group. -/
def isName : List Char → Bool
  | [] => false
  | c :: rest =>
    (c = '_' || Text.isLetter c) &&
      rest.all fun c => c = '_' || c = '.' || c = '[' || c = ']' || Text.isWordChar c

/-- A group whose closing bracket was not read yet, or the whole pattern. -/
structure Level where
  /-- The settings at its head. -/
  settings : Settings := {}
  /-- Whether blanks and remarks are passed over here. -/
  spaced : Bool := false
  /-- The branches before this one, the last first. -/
  branches : List Pattern := []
  /-- The parts of this branch, the last first. -/
  parts : List Pattern := []

namespace Level

/-- The branch that was read so far. -/
def branch (l : Level) : Pattern := ofParts l.parts.reverse

/-- What was read so far. -/
def content (l : Level) : Pattern := ofBranches (l.branch :: l.branches).reverse

/-- The group as a part of what is around it. -/
def closed (l : Level) : Pattern := .group l.settings l.content

/-- With one more part. -/
def add (l : Level) (part : Pattern) : Level := { l with parts := part :: l.parts }

/-- With settings for the rest of it. -/
def set (l : Level) (s : Settings) : Level :=
  { l.add (.settings s) with spaced := s.spaced?.getD l.spaced }

/-- At the start of one more branch. -/
def split (l : Level) : Level := { l with branches := l.branch :: l.branches, parts := [] }

/-- With its last part repeated. -/
def repeat? (l : Level) : Option Level :=
  match l.parts with
  | [] => none
  | part :: parts =>
    if part.isRepeatable then some { l with parts := .repeated part :: parts } else none

/-- A group inside. -/
def inner (l : Level) (s : Settings) : Level :=
  { settings := s, spaced := s.spaced?.getD l.spaced }

end Level

/-! ### Patterns -/

/-- How far a pattern was read. -/
structure Progress where
  /-- The groups around the innermost open one, from the inside out. -/
  outer : List Level := []
  /-- The innermost open group. -/
  level : Level := {}
  /-- The names of groups. -/
  names : List (List Char) := []

namespace Progress

/-- After one more part. -/
def add (p : Progress) (part : Pattern) : Progress := { p with level := p.level.add part }

/-- After the head of a group. -/
def opened (p : Progress) (s : Settings) : Progress :=
  { p with outer := p.level :: p.outer, level := p.level.inner s }

/-- After the head of a group with a name, and the rest. -/
def named? (p : Progress) (text : List Char) : Option (Progress × List Char) :=
  let name := text.takeWhile (· ≠ '>')
  match text.drop name.length with
  | '>' :: rest =>
    if isName name ∧ !p.names.contains name then
      some ({ p.opened {} with names := name :: p.names }, rest)
    else none
  | _ => none

/-- After settings, for a group of their own or for the rest of the group, and the rest. -/
def settled? (p : Progress) (text : List Char) : Option (Progress × List Char) := do
  let letters := text.takeWhile fun c => c ≠ ':' && c ≠ ')'
  let s ← Settings.ofText? letters
  match text.drop letters.length with
  | ':' :: rest => some (p.opened s, rest)
  | ')' :: rest => if letters = [] then none else some ({ p with level := p.level.set s }, rest)
  | _ => none

/-- After the opening bracket of a group and the marks behind it, and the rest. -/
def grouped? (p : Progress) : List Char → Option (Progress × List Char)
  | '?' :: '=' :: _ => none
  | '?' :: '!' :: _ => none
  | '?' :: '<' :: '=' :: _ => none
  | '?' :: '<' :: '!' :: _ => none
  | '?' :: 'P' :: '<' :: text => p.named? text
  | '?' :: '<' :: text => p.named? text
  | '?' :: text => p.settled? text
  | text => some (p.opened {}, text)

/-- After one part of a pattern that starts with a character, and the rest. -/
def step? (p : Progress) (c : Char) (text : List Char) : Option (Progress × List Char) :=
  let spaced := p.level.spaced
  match c with
  | '(' => p.grouped? (skip spaced text)
  | ')' =>
    match p.outer with
    | [] => none
    | parent :: outer => some ({ p with outer, level := parent.add p.level.closed }, text)
  | '|' => some ({ p with level := p.level.split }, text)
  | '[' => (CharSet.read? spaced text).map fun (s, rest) => (p.add (.set s), rest)
  | '{' => none
  | '\\' => (escape? spaced text).map fun (part, rest) => (p.add part, rest)
  | '.' => some (p.add .dot, text)
  | '^' => some (p.add .anchor, text)
  | '$' => some (p.add .anchor, text)
  | _ =>
    if c = '?' ∨ c = '*' ∨ c = '+' then
      p.level.repeat?.map fun level =>
        ({ p with level }, if text.head? = some '?' then text.tail else text)
    else some (p.add (.literal (.ofChar c)), text)

end Progress

/-- The pattern that some progress and the rest of a text make. -/
def readRest? : (fuel : Nat) → Progress → List Char → Option Pattern
  | 0, _, _ => none
  | fuel + 1, p, text =>
    match skip p.level.spaced text with
    | [] => if p.outer.isEmpty then some p.level.content else none
    | c :: rest =>
      match p.step? c rest with
      | some (p, rest) => readRest? fuel p rest
      | none => none

/-- The pattern that a text is. -/
def ofText? (text : List Char) : Option Pattern := readRest? (text.length + 1) {} text

/-! ### Values of fields -/

/-- Whether a text is a row of decimal digits. -/
def isDigits (text : List Char) : Bool := text ≠ [] && text.all Char.isDigit

/-- Whether a text is empty or an exponent of ten. -/
def isExponent : List Char → Bool
  | [] => true
  | e :: text =>
    (e = 'e' || e = 'E') &&
      isDigits (if text.head? = some '+' ∨ text.head? = some '-' then text.tail else text)

/-- Whether a text without a sign is a number. -/
def isNumeral (text : List Char) : Bool :=
  let whole := text.takeWhile Char.isDigit
  let rest := text.drop whole.length
  let parts := if rest.head? = some '.' then rest.tail.takeWhile Char.isDigit else []
  let exponent := if rest.head? = some '.' then rest.tail.drop parts.length else rest
  ["inf", "infinity", "nan"].contains (String.ofList (text.map Char.toLower)) ||
    (whole ++ parts ≠ [] && isExponent exponent)

/-- Why a text cannot be the value of a field. A number with a plus before it is one, and any other
number is a pattern too. -/
def textFault? (text : List Char) : Option PatternFault :=
  if text.head? = some '+' ∧ isNumeral text.tail then none
  else
    match ofText? text with
    | none => some .malformed
    | some p => p.fault?

end SourceGuard.Pattern
