/-!
# Patterns

A log filter may give a pattern for the value of a field. Only whether a pattern can be used matters
here, not what it matches. A pattern is a tree of bounded depth. Its parts are read in a mode, which
settings change up to the end of the group they stand in: a text is taken for characters or for
bytes, and letters of either case are alike or not.

Of characters no properties are known. So no category of characters can be used, nor a letter that
stands for itself in either case, nor a boundary of words, as long as a text is taken for characters.
Of bytes, those up to 127 are known; a pattern of bytes must not match parts of longer characters.

## Main definitions

* `Pattern`, `Pattern.CharSet`: patterns, and the sets of characters in brackets
* `Pattern.depth`: how deep a pattern is
* `Pattern.check`: the mode after a pattern, if all of it can be used in the mode before it
* `Pattern.fault?`: why a pattern cannot be used
-/

namespace SourceGuard

/-- Why a text is no pattern. -/
inductive PatternFault where
  | malformed
  /-- It asks for a boundary of a word of characters. -/
  | boundary
deriving DecidableEq, Repr

/-- A fault in words. -/
def PatternFault.message : PatternFault → String
  | malformed => "error building NFA"
  | boundary =>
    "unsupported regex feature for DFAs: cannot build DFAs for regexes with Unicode word " ++
      "boundaries; switch to ASCII word boundaries, or heuristically enable Unicode word " ++
      "boundaries or use a different regex engine"

namespace Pattern

/-! ### Characters, settings and modes -/

/-- A character that stands for itself. -/
structure Literal where
  /-- Its code point. -/
  code : Nat
  /-- Whether it is given by the two digits of a byte. -/
  isByte : Bool := false
deriving DecidableEq, Repr

/-- A character as it stands in a pattern. -/
def Literal.ofChar (c : Char) : Literal := { code := c.toNat }

/-- What is set at the head of a group or for the rest of it; the other settings stay. -/
structure Settings where
  /-- Whether a text is taken for characters. -/
  unicode? : Option Bool := none
  /-- Whether letters of either case are alike. -/
  caseless? : Option Bool := none
  /-- Whether blanks and remarks are passed over. -/
  spaced? : Option Bool := none
deriving DecidableEq, Repr

/-- How the parts of a pattern are taken. -/
structure Mode where
  /-- Whether a text is taken for characters; otherwise for bytes. -/
  unicode : Bool := true
  /-- Whether letters of either case are alike. -/
  caseless : Bool := false
deriving DecidableEq, Repr

namespace Mode

/-- The mode after settings. -/
def after (m : Mode) (s : Settings) : Mode where
  unicode := s.unicode?.getD m.unicode
  caseless := s.caseless?.getD m.caseless

/-- Whether a character can stand for itself. -/
def admits (m : Mode) (c : Literal) : Bool :=
  if m.unicode then !m.caseless else !c.isByte || c.code ≤ 0x7F

/-- Whether a character can be a member of a set. -/
def admitsMember (m : Mode) (c : Literal) : Bool :=
  if m.unicode then !m.caseless else c.code ≤ 0x7F

/-- Whether a category of characters, or all others, can be used. -/
def admitsCategory (m : Mode) (negated : Bool) : Bool := !m.unicode && !negated

/-- Whether a set with a name, or all others, can be used. -/
def admitsNamed (m : Mode) (negated : Bool) : Bool := if m.unicode then !m.caseless else !negated

end Mode

/-! ### Sets of characters -/

/-- A set of characters. -/
inductive CharSet where
  | empty
  | single (c : Literal)
  | range (first last : Literal)
  /-- A set with a name, or all others. -/
  | named (negated : Bool)
  /-- The digits, the blanks or the characters of words, or all others. -/
  | category (negated : Bool)
  /-- A set in brackets of its own, or all others. -/
  | bracket (negated : Bool) (content : CharSet)
  /-- Two or more sets side by side. -/
  | union (members : List CharSet)
  /-- What two sets have in common, or do not. -/
  | combined (left right : CharSet)

namespace CharSet

/-- Sets side by side. -/
def unite : List CharSet → CharSet
  | [] => empty
  | [s] => s
  | members => union members

mutual

/-- How deep a set is. -/
def depth : CharSet → Nat
  | bracket _ content => content.depth + 1
  | union members => depths members + 1
  | combined left right => max left.depth right.depth + 1
  | empty | single _ | range _ _ | named _ | category _ => 0

/-- How deep the deepest of some sets is. -/
def depths : List CharSet → Nat
  | [] => 0
  | s :: rest => max s.depth (depths rest)

end

mutual

/-- Whether a set can be used in a mode. -/
def fits (m : Mode) : CharSet → Bool
  | empty => true
  | single c => m.admitsMember c
  | range first last => m.admitsMember first && m.admitsMember last
  | named negated => m.admitsNamed negated
  | category negated => m.admitsCategory negated
  | bracket negated content => (m.unicode || !negated) && content.fits m
  | union members => allFit m members
  | combined left right => left.fits m && right.fits m

/-- Whether some sets can be used in a mode. -/
def allFit (m : Mode) : List CharSet → Bool
  | [] => true
  | s :: rest => s.fits m && allFit m rest

end

end CharSet

end Pattern

/-! ### Patterns -/

/-- A pattern. -/
inductive Pattern where
  | empty
  /-- Settings for the rest of the group. -/
  | settings (s : Pattern.Settings)
  | literal (c : Pattern.Literal)
  /-- Any character but the end of a line. -/
  | dot
  /-- A start or an end of a line or of the text. -/
  | anchor
  /-- A start or an end of a word, or no such place. -/
  | boundary
  /-- The digits, the blanks or the characters of words, or all others. -/
  | category (negated : Bool)
  /-- A set of characters in brackets. -/
  | set (s : Pattern.CharSet)
  /-- As often as wanted. -/
  | repeated (p : Pattern)
  /-- A group with settings of its own. -/
  | group (s : Pattern.Settings) (p : Pattern)
  /-- Two or more patterns one after another. -/
  | sequence (parts : List Pattern)
  /-- One of two or more patterns. -/
  | choice (branches : List Pattern)

namespace Pattern

/-- Patterns one after another. -/
def ofParts : List Pattern → Pattern
  | [] => empty
  | [p] => p
  | parts => sequence parts

/-- One of some patterns. -/
def ofBranches : List Pattern → Pattern
  | [] => empty
  | [p] => p
  | branches => choice branches

/-- Whether a pattern can be repeated. -/
def isRepeatable : Pattern → Bool
  | empty | settings _ => false
  | _ => true

mutual

/-- How deep a pattern is. -/
def depth : Pattern → Nat
  | set s => s.depth
  | repeated p | group _ p => p.depth + 1
  | sequence ps | choice ps => depths ps + 1
  | empty | settings _ | literal _ | dot | anchor | boundary | category _ => 0

/-- How deep the deepest of some patterns is. -/
def depths : List Pattern → Nat
  | [] => 0
  | p :: rest => max p.depth (depths rest)

end

/-- How deep a pattern may be. -/
def depthLimit : Nat := 250

mutual

/-- The mode after a pattern, and whether the pattern asks for a boundary of a word of characters,
if all of it can be used in the mode before it. -/
def check : Mode → Pattern → Option (Mode × Bool)
  | m, empty | m, anchor => some (m, false)
  | m, settings s => some (m.after s, false)
  | m, literal c => if m.admits c then some (m, false) else none
  | m, dot => if m.unicode then some (m, false) else none
  | m, boundary => some (m, m.unicode)
  | m, category negated => if m.admitsCategory negated then some (m, false) else none
  | m, set s => if s.fits m then some (m, false) else none
  | m, repeated p => check m p
  | m, group s p => (check (m.after s) p).map fun (_, bounded) => (m, bounded)
  | m, sequence ps | m, choice ps => checkAll m ps

/-- The mode after patterns that are read one after another, and whether one asks for a boundary of
a word of characters, if all of them can be used. -/
def checkAll : Mode → List Pattern → Option (Mode × Bool)
  | m, [] => some (m, false)
  | m, p :: rest =>
    match check m p with
    | none => none
    | some (m, bounded) => (checkAll m rest).map fun (m, more) => (m, bounded || more)

end

/-- Why a pattern cannot be used. That it asks for a boundary is found last. -/
def fault? (p : Pattern) : Option PatternFault :=
  if depthLimit < p.depth then some .malformed
  else
    match check {} p with
    | none => some .malformed
    | some (_, bounded) => if bounded then some .boundary else none

end Pattern

end SourceGuard
