import SourceGuard.Address

/-!
# Reading addresses

An address is read from its whole text, without spaces, zones or lengths of networks. The octets of
an IPv4 address are decimal without leading zeros; the groups of an IPv6 address have one to four
hexadecimal digits of either case, one `::` may stand for one or more zero groups, and the last two
groups may be written as an IPv4 address.

## Main definitions

* `Address.ofText?`: the address that a text spells
-/

namespace SourceGuard.Address

/-- The digits at the head of a text and the rest; at least one digit and at most `most`. -/
def digitRun (base most : Nat) (text : List Char) : Option (List Char × List Char) :=
  let run := text.takeWhile (Text.isDigitOf base)
  if run = [] ∨ most < run.length then none else some (run, text.dropWhile (Text.isDigitOf base))

/-- A decimal octet without a leading zero. -/
def octet? (text : List Char) : Option (Nat × List Char) := do
  let (run, rest) ← digitRun 10 3 text
  if run.head? = some '0' ∧ run ≠ ['0'] then none
  else if 255 < Text.numberOf 10 run then none
  else some (Text.numberOf 10 run, rest)

/-- A hexadecimal group of one to four digits. -/
def group? (text : List Char) : Option (Nat × List Char) := do
  let (run, rest) ← digitRun 16 4 text
  some (Text.numberOf 16 run, rest)

/-- The rest of a text that starts with a mark. -/
def after? (mark : Char) : List Char → Option (List Char)
  | c :: rest => if c = mark then some rest else none
  | [] => none

/-- Four octets with dots between them. -/
def octets? (text : List Char) : Option (List Nat × List Char) := do
  let (a, text) ← octet? text
  let (b, text) ← octet? (← after? '.' text)
  let (c, text) ← octet? (← after? '.' text)
  let (d, text) ← octet? (← after? '.' text)
  some ([a, b, c, d], text)

/-- The groups that a reading of the head of a text found. -/
structure GroupRun where
  /-- The groups, at most as many as were wanted. -/
  groups : List Nat
  /-- Whether the last two groups were written as an IPv4 address. -/
  dotted : Bool
  /-- What follows. -/
  rest : List Char

/-- The groups at the head of a text with colons between them, at most `room`. An IPv4 address
counts as two groups and ends the run. -/
def groupRun : (room : Nat) → (first : Bool) → List Char → GroupRun
  | 0, _, text => ⟨[], false, text⟩
  | room + 1, first, text =>
    let start := if first then some text else after? ':' text
    let tail? := if room = 0 then none else start.bind octets?
    match tail? with
    | some ([a, b, c, d], rest) => ⟨[a * 256 + b, c * 256 + d], true, rest⟩
    | _ =>
      match start.bind group? with
      | some (g, rest) =>
        let more := groupRun room false rest
        ⟨g :: more.groups, more.dotted, more.rest⟩
      | none => ⟨[], false, text⟩

/-- The eight groups of an IPv6 address. -/
def groups? (text : List Char) : Option (List Nat × List Char) :=
  let front := groupRun 8 true text
  if front.groups.length = 8 then some (front.groups, front.rest)
  else if front.dotted then none
  else do
    let rest ← after? ':' front.rest
    let rest ← after? ':' rest
    let back := groupRun (7 - front.groups.length) true rest
    let zeros := List.replicate (8 - front.groups.length - back.groups.length) 0
    some (front.groups ++ zeros ++ back.groups, back.rest)

/-- The address that characters spell. -/
def ofChars? (text : List Char) : Option Address :=
  match octets? text with
  | some (octets, []) => some (ofOctets octets)
  | _ =>
    match groups? text with
    | some (groups, []) => some (ofGroups groups)
    | _ => none

/-- The address that a text spells. -/
def ofText? (text : String) : Option Address := ofChars? text.toList

end SourceGuard.Address
