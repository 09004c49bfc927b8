import SourceGuard.Address

/-!
# The written form of an address

An IPv4 address is written as four decimal octets. An IPv6 address is written in lower-case
hexadecimal groups without leading zeros, its first longest run of at least two zero groups as
`::`; the IPv4-mapped addresses, and no others, end in dotted form.

## Main definitions

* `Address.toText`: the written form
-/

namespace SourceGuard.Address

/-- The written form of an IPv4 address. -/
def dotted (bits : BitVec 32) : List Char :=
  List.intercalate ['.'] ((octets bits).map Text.decimal)

/-- Groups joined by colons. -/
def joined (groups : List Nat) : List Char :=
  List.intercalate [':'] (groups.map Text.hexadecimal)

/-- The length of the run of zero groups at the head of a list. -/
def zeroRun (groups : List Nat) : Nat := (groups.takeWhile (· = 0)).length

/-- The start and the length of the first longest run of zero groups, `start` being the position of
the head of the list. -/
def longestZeroRun : (start : Nat) → List Nat → Nat × Nat
  | start, [] => (start, 0)
  | start, g :: rest =>
    let here := zeroRun (g :: rest)
    let later := longestZeroRun (start + 1) rest
    if later.2 ≤ here then (start, here) else later

/-- The written form of an IPv6 address that is not IPv4-mapped. -/
def compressed (groups : List Nat) : List Char :=
  let run := longestZeroRun 0 groups
  if 1 < run.2 then
    joined (groups.take run.1) ++ [':', ':'] ++ joined (groups.drop (run.1 + run.2))
  else joined groups

/-- The IPv4 address that an IPv6 address maps, if its first groups are five zeros and `ffff`. -/
def mapped? (bits : BitVec 128) : Option (BitVec 32) :=
  if (groups bits).take 6 = [0, 0, 0, 0, 0, 0xffff] then some (BitVec.ofNat 32 bits.toNat) else none

/-- The written form of an address, as characters. -/
def chars : Address → List Char
  | v4 bits => dotted bits
  | v6 bits =>
    match mapped? bits with
    | some low => "::ffff:".toList ++ dotted low
    | none => compressed (groups bits)

/-- The written form of an address. -/
def toText (a : Address) : String := String.ofList a.chars

instance : ToString Address := ⟨toText⟩

end SourceGuard.Address
