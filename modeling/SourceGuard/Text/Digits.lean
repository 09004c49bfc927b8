/-!
# Digits

Numbers are written with the most significant digit first and without leading zeros, in decimal or
in lower-case hexadecimal digits, and are read back digit by digit.

## Main definitions

* `decimal`, `hexadecimal`: the digits of a number
* `ofDigits`: the number that digits spell in a base
* `digitValue?`: the value of a digit of either case
-/

namespace SourceGuard.Text

/-- The decimal digits of a number. -/
def decimal (n : Nat) : List Char := Nat.toDigits 10 n

/-- The lower-case hexadecimal digits of a number. -/
def hexadecimal (n : Nat) : List Char := Nat.toDigits 16 n

/-- The decimal digits of a number that may be negative. -/
def signedDecimal : Int → List Char
  | .ofNat n => decimal n
  | .negSucc n => '-' :: decimal (n + 1)

/-- The number that digits spell in a base, the most significant first. -/
def ofDigits (base : Nat) (digits : List Nat) : Nat :=
  digits.foldl (fun n d => n * base + d) 0

/-- The value of a hexadecimal digit of either case. -/
def digitValue? (c : Char) : Option Nat :=
  if '0' ≤ c ∧ c ≤ '9' then some (c.toNat - '0'.toNat)
  else if 'a' ≤ c ∧ c ≤ 'f' then some (c.toNat - 'a'.toNat + 10)
  else if 'A' ≤ c ∧ c ≤ 'F' then some (c.toNat - 'A'.toNat + 10)
  else none

/-- Whether a character is a digit of the base. -/
def isDigitOf (base : Nat) (c : Char) : Bool := (digitValue? c).any (decide <| · < base)

/-- The number that characters spell in a base, characters that are no digits left out. -/
def numberOf (base : Nat) (cs : List Char) : Nat := ofDigits base (cs.filterMap digitValue?)

end SourceGuard.Text
