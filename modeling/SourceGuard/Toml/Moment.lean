import SourceGuard.Text.Digits

/-!
# Dates and times in TOML

A moment is a date, a time of day, or both with an optional offset from universal time. Dates
exist in the Gregorian calendar, and a minute may have a leap second.

## Main definitions

* `Toml.moment?`: what follows a moment at the head of a text
-/

namespace SourceGuard.Toml

/-- A number of exactly so many decimal digits. -/
def fixed? (digits : Nat) (text : List Char) : Option (Nat × List Char) :=
  let run := text.take digits
  if run.length = digits ∧ run.all (Text.isDigitOf 10) then
    some (Text.numberOf 10 run, text.drop digits)
  else none

/-- A number of exactly so many digits between two bounds. -/
def bounded? (digits low high : Nat) (text : List Char) : Option (Nat × List Char) := do
  let (n, rest) ← fixed? digits text
  if low ≤ n ∧ n ≤ high then some (n, rest) else none

/-- What follows a mark. -/
def marked? (mark : Char) : List Char → Option (List Char)
  | c :: rest => if c = mark then some rest else none
  | [] => none

/-- Whether a year has a leap day. -/
def isLeapYear (year : Nat) : Bool := year % 4 = 0 && (year % 100 ≠ 0 || year % 400 = 0)

/-- The number of days of a month. -/
def monthLength (year month : Nat) : Nat :=
  if month = 2 then (if isLeapYear year then 29 else 28)
  else if month = 4 ∨ month = 6 ∨ month = 9 ∨ month = 11 then 30
  else 31

/-- What follows a date. -/
def date? (text : List Char) : Option (List Char) := do
  let (year, text) ← fixed? 4 text
  let (month, text) ← bounded? 2 1 12 (← marked? '-' text)
  let (_, text) ← bounded? 2 1 (monthLength year month) (← marked? '-' text)
  some text

/-- What follows the fraction of a second, if there is one. -/
def secondFraction (text : List Char) : List Char :=
  match text with
  | '.' :: c :: rest =>
    if Text.isDigitOf 10 c then rest.dropWhile (Text.isDigitOf 10) else text
  | _ => text

/-- What follows a time of day. -/
def time? (text : List Char) : Option (List Char) := do
  let (_, text) ← bounded? 2 0 23 text
  let (_, text) ← bounded? 2 0 59 (← marked? ':' text)
  let (_, text) ← bounded? 2 0 60 (← marked? ':' text)
  some (secondFraction text)

/-- What follows a numeric offset after its sign. -/
def offset? (text : List Char) : Option (List Char) := do
  let (_, text) ← bounded? 2 0 23 text
  let (_, text) ← bounded? 2 0 59 (← marked? ':' text)
  some text

/-- What follows an offset, if there is one. -/
def offset (text : List Char) : List Char :=
  match text with
  | 'Z' :: rest => rest
  | 'z' :: rest => rest
  | '+' :: rest => (offset? rest).getD text
  | '-' :: rest => (offset? rest).getD text
  | _ => text

/-- What follows a time and an offset after the mark of a time, if they are there. -/
def timeOfDay (text : List Char) : List Char :=
  match text with
  | c :: rest =>
    if c = 'T' ∨ c = 't' ∨ c = ' ' then ((time? rest).map offset).getD text else text
  | [] => text

/-- What follows a moment. -/
def moment? (text : List Char) : Option (List Char) :=
  match date? text with
  | some rest => some (timeOfDay rest)
  | none => time? text

end SourceGuard.Toml
