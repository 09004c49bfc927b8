/-!
# Blank characters

The characters with the Unicode property *White_Space*, and texts without them at their ends.

## Main definitions

* `isBlank`: the property
* `trimBlank`: a text without the blank characters at its ends
* `isBlankText`: whether a text has no other characters

## Main results

* `isBlank_eq_false`: the shown characters of ASCII are not blank
-/

namespace SourceGuard.Text

/-- Whether a character has the property *White_Space*. -/
def isBlank (c : Char) : Bool :=
  let n := c.toNat
  (9 ≤ n && n ≤ 13) || n = 0x20 || n = 0x85 || n = 0xA0 || n = 0x1680 ||
    (0x2000 ≤ n && n ≤ 0x200A) || n = 0x2028 || n = 0x2029 || n = 0x202F || n = 0x205F ||
    n = 0x3000

/-- The shown characters of ASCII are not blank. -/
theorem isBlank_eq_false {c : Char} (hlow : 0x20 < c.toNat) (hhigh : c.toNat < 0x7F) :
    isBlank c = false := by
  simp only [isBlank, Bool.or_eq_false_iff, Bool.and_eq_false_iff, decide_eq_false_iff_not]
  omega

/-- Characters without the blank ones at their ends. -/
def trimBlankChars (cs : List Char) : List Char :=
  ((cs.dropWhile isBlank).reverse.dropWhile isBlank).reverse

/-- A text without the blank characters at its ends. -/
def trimBlank (text : String) : String := String.ofList (trimBlankChars text.toList)

/-- Whether a text has no characters but blank ones. -/
def isBlankText (text : String) : Bool := text.toList.all isBlank

end SourceGuard.Text
