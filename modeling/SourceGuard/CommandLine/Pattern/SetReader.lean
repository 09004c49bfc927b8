import SourceGuard.CommandLine.Pattern.Escape

/-!
# Reading sets of characters

A set of characters stands in brackets. After a caret it is all others. Hyphens at its head stand for
themselves, and, if there are none, so does a closing bracket. Its members are characters, ranges of
them, escapes, sets with a name and sets in brackets; doubled marks combine what stands before them
with what stands after them, from left to right.

## Main definitions

* `Pattern.OpenSet`: a set whose closing bracket was not read yet
* `Pattern.CharSet.read?`: the set whose opening bracket was read
-/

namespace SourceGuard.Pattern

/-! ### Open sets -/

/-- A set whose closing bracket was not read yet. -/
structure OpenSet where
  /-- Whether all others are meant. -/
  negated : Bool
  /-- Whether a hyphen stands for itself here, as does a bracket if there is no member yet. -/
  atHead : Bool := true
  /-- What the members are to be combined with. -/
  left? : Option CharSet := none
  /-- The members, the last first. -/
  members : List CharSet := []

namespace OpenSet

/-- What was read so far. -/
def content (s : OpenSet) : CharSet :=
  let right := CharSet.unite s.members.reverse
  match s.left? with
  | none => right
  | some left => .combined left right

/-- The set as it stands in its brackets. -/
def closed (s : OpenSet) : CharSet := .bracket s.negated s.content

/-- With one more member. -/
def add (s : OpenSet) (member : CharSet) : OpenSet :=
  { s with atHead := false, members := member :: s.members }

/-- With one more hyphen at its head. -/
def addHyphen (s : OpenSet) : OpenSet :=
  { s with members := .single (.ofChar '-') :: s.members }

/-- After a mark that combines. -/
def combine (s : OpenSet) : OpenSet :=
  { s with atHead := false, left? := some s.content, members := [] }

end OpenSet

/-- A set whose opening bracket was read, and the rest. -/
def openSet (spaced : Bool) (text : List Char) : OpenSet × List Char :=
  match skip spaced text with
  | '^' :: rest => ({ negated := true }, rest)
  | text => ({ negated := false }, text)

/-! ### Members -/

/-- The names of sets. -/
def setNames : List String :=
  ["alnum", "alpha", "ascii", "blank", "cntrl", "digit", "graph", "lower", "print", "punct",
    "space", "upper", "word", "xdigit"]

/-- A set with a name whose opening bracket was read, and the rest. -/
def namedSet? : List Char → Option (CharSet × List Char)
  | ':' :: text =>
    let negated := text.head? = some '^'
    let text := if negated then text.tail else text
    let name := text.takeWhile (· ≠ ':')
    match text.drop name.length with
    | ':' :: ']' :: rest =>
      if setNames.contains (String.ofList name) then some (.named negated, rest) else none
    | _ => none
  | _ => none

/-- A character or an escape, and the rest. -/
def memberPart? (spaced : Bool) : List Char → Option (Pattern × List Char)
  | [] => none
  | '\\' :: rest => escape? spaced rest
  | c :: rest => some (.literal (.ofChar c), rest)

/-- The members that a part of a pattern stands for. -/
def asMember? : Pattern → Option CharSet
  | .literal c => some (.single c)
  | .category negated => some (.category negated)
  | _ => none

/-- The range from one part of a pattern to another. -/
def asRange? : Pattern → Pattern → Option CharSet
  | .literal first, .literal last =>
    if first.code ≤ last.code then some (.range first last) else none
  | _, _ => none

/-- The character that counts after a hyphen. A remark is not passed over to its end here: only its
sign and the blanks around it are. -/
def afterHyphen? (spaced : Bool) (text : List Char) : Option Char :=
  if spaced then
    match text.dropWhile Text.isBlank with
    | '#' :: rest => (rest.dropWhile Text.isBlank).head?
    | text => text.head?
  else text.head?

/-- A character, a range of characters or an escape, and the rest. A hyphen makes no range before a
closing bracket or another hyphen. -/
def member? (spaced : Bool) (text : List Char) : Option (CharSet × List Char) := do
  let (first, rest) ← memberPart? spaced text
  match skip spaced rest with
  | [] => none
  | '-' :: next =>
    let ahead := afterHyphen? spaced next
    if ahead = some ']' ∨ ahead = some '-' then
      (asMember? first).map fun member => (member, '-' :: next)
    else do
      let (last, rest) ← memberPart? spaced (skip spaced next)
      (asRange? first last).map fun member => (member, rest)
  | rest => (asMember? first).map fun member => (member, rest)

/-! ### Sets -/

/-- The outermost set and the rest, after some of its text; the sets around the innermost one are
given from the inside out. -/
def setBody? (spaced : Bool) :
    (fuel : Nat) → (outer : List OpenSet) → OpenSet → List Char → Option (CharSet × List Char)
  | 0, _, _, _ => none
  | fuel + 1, outer, s, text =>
    match skip spaced text with
    | [] => none
    | c :: rest =>
      if c = '-' ∧ s.atHead then setBody? spaced fuel outer s.addHyphen rest
      else if c = ']' ∧ s.atHead ∧ s.members.isEmpty then
        setBody? spaced fuel outer (s.add (.single (.ofChar c))) rest
      else if c = ']' then
        match outer with
        | [] => some (s.closed, rest)
        | parent :: outer => setBody? spaced fuel outer (parent.add s.closed) rest
      else if c = '[' then
        match namedSet? rest with
        | some (member, rest) => setBody? spaced fuel outer (s.add member) rest
        | none =>
          let (inner, rest) := openSet spaced rest
          setBody? spaced fuel (s :: outer) inner rest
      else if (c = '&' ∨ c = '-' ∨ c = '~') ∧ rest.head? = some c then
        setBody? spaced fuel outer s.combine rest.tail
      else
        match member? spaced (c :: rest) with
        | some (member, rest) => setBody? spaced fuel outer (s.add member) rest
        | none => none

/-- The set whose opening bracket was read, and the rest. -/
def CharSet.read? (spaced : Bool) (text : List Char) : Option (CharSet × List Char) :=
  let (s, rest) := openSet spaced text
  setBody? spaced (text.length + 1) [] s rest

end SourceGuard.Pattern
