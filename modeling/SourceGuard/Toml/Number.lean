import SourceGuard.Text.Digits

/-!
# Numbers in TOML

A whole number has a sign and decimal digits without leading zeros, or hexadecimal, octal or binary
digits after their mark; it fits into 64 bits with a sign. Any other number has a fraction, an
exponent or both, or is infinite or no number. Single underscores may stand between digits.

## Main definitions

* `Toml.integer?`: the whole number at the head of a text
* `Toml.float?`: what follows another number at the head of a text
-/

namespace SourceGuard.Toml

/-- Whether a text starts with a digit. -/
def startsWithDigit (base : Nat) (text : List Char) : Bool := text.head?.any (Text.isDigitOf base)

/-- The digits at the head of a text, single underscores between them left out. -/
def digitRun (base : Nat) : List Char → List Char × List Char
  | [] => ([], [])
  | c :: rest =>
    if Text.isDigitOf base c then
      let (digits, rest) := digitRun base rest
      (c :: digits, rest)
    else if c = '_' ∧ startsWithDigit base rest then digitRun base rest
    else ([], c :: rest)

/-- One or more digits, the first character being one. -/
def digits? (base : Nat) (text : List Char) : Option (List Char × List Char) :=
  if startsWithDigit base text then some (digitRun base text) else none

/-- Decimal digits without leading zeros. -/
def plainDigits? : List Char → Option (List Char × List Char)
  | '0' :: rest => some (['0'], rest)
  | text => digits? 10 text

/-- Whether a minus sign stands at the head of a text, and what follows the sign if there is one. -/
def sign : List Char → Bool × List Char
  | '+' :: rest => (false, rest)
  | '-' :: rest => (true, rest)
  | text => (false, text)

/-! ### Whole numbers -/

/-- A number with its sign. -/
def signed (negative : Bool) (n : Nat) : Int := if negative then -n else n

/-- Whether a whole number fits into 64 bits with a sign. -/
def isWord (n : Int) : Bool := -0x8000000000000000 ≤ n && n < 0x8000000000000000

/-- A whole number in another base than ten, after its mark. -/
def based? (base : Nat) (text : List Char) : Option (Int × List Char) := do
  let (digits, rest) ← digits? base text
  some (Text.numberOf base digits, rest)

/-- A whole number of any size. -/
def unbounded? : List Char → Option (Int × List Char)
  | '0' :: 'x' :: rest => based? 16 rest
  | '0' :: 'o' :: rest => based? 8 rest
  | '0' :: 'b' :: rest => based? 2 rest
  | text => do
    let (negative, text) := sign text
    let (digits, rest) ← plainDigits? text
    some (signed negative (Text.numberOf 10 digits), rest)

/-- The whole number at the head of a text. -/
def integer? (text : List Char) : Option (Int × List Char) := do
  let (n, rest) ← unbounded? text
  if isWord n then some (n, rest) else none

/-! ### Other numbers -/

/-- The digits of a fraction after its point. -/
def fraction? : List Char → Option (List Char × List Char)
  | '.' :: rest => digits? 10 rest
  | _ => none

/-- The power of ten after an exponent mark. -/
def exponent? : List Char → Option (Int × List Char)
  | c :: rest =>
    if c = 'e' ∨ c = 'E' then do
      let (negative, rest) := sign rest
      let (digits, rest) ← digits? 10 rest
      some (signed negative (Text.numberOf 10 digits), rest)
    else none
  | [] => none

/-- The least magnitude that rounds to infinity. -/
def infinite : Nat := 1 <<< 1024 - 1 <<< 970

/-- Whether digits times a power of ten round to infinity. Ten to the power 309 is too large and ten
to the power 308 is not, so the product is formed only where its length does not decide. -/
def isInfinite (digits : List Char) (power : Int) : Bool :=
  let n := Text.numberOf 10 digits
  let length : Int := (Text.decimal n).length + power
  if n = 0 ∨ length ≤ 308 then false
  else if 310 ≤ length then true
  else infinite * Nat.pow 10 (-power).toNat ≤ n * Nat.pow 10 power.toNat

/-- What follows a number with a fraction or an exponent; positive numbers that round to infinity
are none. -/
def decimalFloat? (text : List Char) : Option (List Char) := do
  let (negative, text) := sign text
  let (whole, text) ← plainDigits? text
  match fraction? text with
  | some (fraction, text) =>
    let (power, text) := (exponent? text).getD (0, text)
    if !negative && isInfinite (whole ++ fraction) (power - fraction.length) then none
    else some text
  | none =>
    let (power, text) ← exponent? text
    if !negative && isInfinite whole power then none else some text

/-- What follows an infinite number or one that is none. -/
def namedFloat? (text : List Char) : Option (List Char) :=
  let (_, text) := sign text
  if text.take 3 = ['i', 'n', 'f'] ∨ text.take 3 = ['n', 'a', 'n'] then some (text.drop 3) else none

/-- What follows a number that is not whole. -/
def float? (text : List Char) : Option (List Char) := decimalFloat? text <|> namedFloat? text

end SourceGuard.Toml
