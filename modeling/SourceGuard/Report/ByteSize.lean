import SourceGuard.Rounding
import SourceGuard.Text.Digits

/-!
# Byte counts for people

A byte count is kept to 53 significant bits, divided by the largest of the units B, KB, MB, GB and
TB that leaves less than 1024 of them (TB at the latest), and written with two decimals, a tie
going to the even hundredth.

## Main definitions

* `ByteSize.unit`: the unit of a count
* `ByteSize.hundredths`: the hundredths of the unit
* `ByteSize.toText`: the written form
-/

namespace SourceGuard.ByteSize

/-- The names of the units, each 1024 times the one before. -/
def unitNames : List String := ["B", "KB", "MB", "GB", "TB"]

/-- The position of the unit of a count that is kept to 53 significant bits. -/
def unit (count : Nat) : Nat :=
  if count < 1024 then 0
  else if count < 1 <<< 20 then 1
  else if count < 1 <<< 30 then 2
  else if count < 1 <<< 40 then 3
  else 4

/-- The hundredths of its unit that a count comes to. -/
def hundredths (count : Nat) : Nat :=
  let kept := toPrecision count
  roundDiv (kept * 100) (1 <<< (10 * unit kept))

/-- Hundredths as a number with two decimals. -/
def twoDecimals (n : Nat) : List Char :=
  Text.decimal (n / 100) ++ ['.'] ++ Text.decimal (n / 10 % 10) ++ Text.decimal (n % 10)

/-- A byte count for people, as characters. -/
def chars (count : Nat) : List Char :=
  twoDecimals (hundredths count) ++ [' '] ++ (unitNames[unit (toPrecision count)]?.getD "").toList

/-- A byte count for people. -/
def toText (count : Nat) : String := String.ofList (chars count)

end SourceGuard.ByteSize
