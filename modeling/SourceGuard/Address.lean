import SourceGuard.Text.Digits

/-!
# Addresses

The source of a packet is an IPv4 or an IPv6 address. Every IPv4 address precedes every IPv6
address, and within a family the order is numeric. An IPv4-mapped IPv6 address is an IPv6 address
of its own.

## Main definitions

* `Address`: the two families
* `Address.rank`: the position of an address in the order

## Main results

* `Address.rank_injective`: the rank tells addresses apart, so the order is total
-/

namespace SourceGuard

/-- An IPv4 or IPv6 address, as the number its octets spell. -/
inductive Address where
  | v4 (bits : BitVec 32)
  | v6 (bits : BitVec 128)
deriving DecidableEq, Repr, Inhabited

namespace Address

/-- The position of an address in the order: the IPv4 addresses first, then the IPv6 addresses. -/
def rank : Address → Nat
  | v4 bits => bits.toNat
  | v6 bits => 0x100000000 + bits.toNat

@[simp] theorem rank_v4 (bits : BitVec 32) : (v4 bits).rank = bits.toNat := rfl

@[simp] theorem rank_v6 (bits : BitVec 128) : (v6 bits).rank = 0x100000000 + bits.toNat := rfl

/-- **The rank tells addresses apart.** -/
theorem rank_injective {a b : Address} (h : a.rank = b.rank) : a = b := by
  cases a with
  | v4 x =>
    cases b with
    | v4 y => exact congrArg v4 (BitVec.eq_of_toNat_eq h)
    | v6 y => have := x.isLt; simp only [rank_v4, rank_v6] at h; omega
  | v6 x =>
    cases b with
    | v4 y => have := y.isLt; simp only [rank_v4, rank_v6] at h; omega
    | v6 y => exact congrArg v6 (BitVec.eq_of_toNat_eq (by simp only [rank_v6] at h; omega))

instance : LT Address := ⟨fun a b => a.rank < b.rank⟩

instance : LE Address := ⟨fun a b => a.rank ≤ b.rank⟩

theorem lt_def {a b : Address} : a < b ↔ a.rank < b.rank := Iff.rfl

theorem le_def {a b : Address} : a ≤ b ↔ a.rank ≤ b.rank := Iff.rfl

instance (a b : Address) : Decidable (a < b) := inferInstanceAs (Decidable (a.rank < b.rank))

instance (a b : Address) : Decidable (a ≤ b) := inferInstanceAs (Decidable (a.rank ≤ b.rank))

theorem lt_irrefl (a : Address) : ¬ a < a := Nat.lt_irrefl _

theorem lt_trans {a b c : Address} (h : a < b) (k : b < c) : a < c := Nat.lt_trans h k

theorem ne_of_lt {a b : Address} (h : a < b) : a ≠ b := by
  rintro rfl
  exact lt_irrefl a h

/-- Of two addresses that are not in ascending order and differ, the second precedes the first. -/
theorem lt_of_not_lt_of_ne {a b : Address} (h : ¬ a < b) (hne : a ≠ b) : b < a := by
  rw [lt_def] at h ⊢
  have : a.rank ≠ b.rank := fun e => hne (rank_injective e)
  omega

/-- The octets of an IPv4 address, from the most significant. -/
def octets (bits : BitVec 32) : List Nat :=
  [bits.toNat >>> 24 % 256, bits.toNat >>> 16 % 256, bits.toNat >>> 8 % 256,
    bits.toNat % 256]

/-- The eight groups of 16 bits of an IPv6 address, from the most significant. -/
def groups (bits : BitVec 128) : List Nat :=
  [bits.toNat >>> 112 % 65536, bits.toNat >>> 96 % 65536, bits.toNat >>> 80 % 65536,
    bits.toNat >>> 64 % 65536, bits.toNat >>> 48 % 65536, bits.toNat >>> 32 % 65536,
    bits.toNat >>> 16 % 65536, bits.toNat % 65536]

/-- The IPv4 address of four octets. -/
def ofOctets (octets : List Nat) : Address := v4 (BitVec.ofNat 32 (Text.ofDigits 256 octets))

/-- The IPv6 address of eight groups. -/
def ofGroups (groups : List Nat) : Address := v6 (BitVec.ofNat 128 (Text.ofDigits 65536 groups))

end Address

end SourceGuard
