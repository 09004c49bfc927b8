/-!
# Rounding

Quotients and magnitudes are rounded to the nearest representable value, a tie going to the even
neighbour. A magnitude with 53 significant bits stands for the value a measuring instrument of that
precision would keep.

## Main definitions

* `roundDiv`: a quotient rounded to the nearest whole number
* `toPrecision`: a whole number rounded to 53 significant bits

## Main results

* `roundDiv_mul_le`, `le_roundDiv_mul`: the rounded quotient is within half a unit
* `toPrecision_of_lt`: numbers below `2 ^ 53` are kept
-/

namespace SourceGuard

/-- The quotient `n / d` rounded to the nearest whole number, a tie going to the even neighbour. -/
def roundDiv (n d : Nat) : Nat :=
  let q := n / d
  let r := n % d
  if 2 * r < d then q else if d < 2 * r then q + 1 else q + q % 2

/-- A rounded quotient exceeds the quotient by at most one half. -/
theorem roundDiv_mul_le (n : Nat) {d : Nat} (hd : 0 < d) : 2 * (roundDiv n d * d) ≤ 2 * n + d := by
  have h := Nat.div_add_mod n d
  have hr := Nat.mod_lt n hd
  rw [Nat.mul_comm] at h
  simp only [roundDiv]
  split
  · omega
  · split
    · rw [Nat.add_mul, Nat.one_mul]; omega
    · rcases Nat.mod_two_eq_zero_or_one (n / d) with e | e <;> rw [e, Nat.add_mul] <;> omega

/-- A rounded quotient falls short of the quotient by at most one half. -/
theorem le_roundDiv_mul (n : Nat) {d : Nat} (hd : 0 < d) : 2 * n ≤ 2 * (roundDiv n d * d) + d := by
  have h := Nat.div_add_mod n d
  have hr := Nat.mod_lt n hd
  rw [Nat.mul_comm] at h
  simp only [roundDiv]
  split
  · omega
  · split
    · rw [Nat.add_mul, Nat.one_mul]; omega
    · rcases Nat.mod_two_eq_zero_or_one (n / d) with e | e <;> rw [e, Nat.add_mul] <;> omega

@[simp] theorem roundDiv_one (n : Nat) : roundDiv n 1 = n := by
  simp [roundDiv, Nat.mod_one]

/-- The number of binary digits of a number beyond 53. -/
def excessBits (n : Nat) : Nat := n.log2 + 1 - 53

/-- A whole number rounded to 53 significant bits, a tie going to the even neighbour. -/
def toPrecision (n : Nat) : Nat := roundDiv n (1 <<< excessBits n) <<< excessBits n

/-- **Numbers below `2 ^ 53` are kept.** -/
theorem toPrecision_of_lt {n : Nat} (h : n < 1 <<< 53) : toPrecision n = n := by
  have hlog : n.log2 < 53 := by
    rcases Nat.eq_zero_or_pos n with rfl | hpos
    · simp
    · exact (Nat.log2_lt (by omega)).mpr (Nat.one_shiftLeft 53 ▸ h)
  have he : excessBits n = 0 := by unfold excessBits; omega
  simp [toPrecision, he]

end SourceGuard
