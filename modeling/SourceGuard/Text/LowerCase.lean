import SourceGuard.Text.CaseTable

/-!
# Lower case

A text in lower case: every character in its lower-case form, the dotted capital I as two
characters, and a capital sigma in its final form at the end of a word.

## Main definitions

* `lowerChar`: the simple lower-case form of a character
* `lowerCase`: a text in lower case
-/

namespace SourceGuard.Text

/-- The simple lower-case form of a character. -/
def lowerChar (c : Char) : Char :=
  match lowerRuns.find? fun (first, last, step, _) =>
      first ≤ c.toNat && c.toNat ≤ last && (c.toNat - first) % step = 0 with
  | some (_, _, _, shift) => Char.ofNat (c.toNat + shift).toNat
  | none => c

/-- Whether the first character that is not ignorable is cased. -/
def meetsCased (cs : List Char) : Bool :=
  match cs.dropWhile fun c => isWithin ignorableRanges c.toNat with
  | c :: _ => isWithin casedRanges c.toNat
  | [] => false

/-- The lower-case form of a character between those before it, the nearest first, and those after
it. -/
def lowerAt (before : List Char) (c : Char) (after : List Char) : List Char :=
  if c = 'Σ' then [if meetsCased before && !meetsCased after then 'ς' else 'σ']
  else if c = 'İ' then ['i', '\u0307']
  else [lowerChar c]

/-- Characters in lower case, after those before them, the nearest first. -/
def lowerFrom : (before : List Char) → List Char → List Char
  | _, [] => []
  | before, c :: after => lowerAt before c after ++ lowerFrom (c :: before) after

/-- A text in lower case. -/
def lowerCase (text : String) : String := String.ofList (lowerFrom [] text.toList)

end SourceGuard.Text
