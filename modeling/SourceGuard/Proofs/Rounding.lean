import Mathlib.Data.Nat.Dist
import SourceGuard.Rounding

/-!
# Nearest values

Rounding goes to the nearest of certain values: the multiples of a step, or the numbers with at most
53 significant bits. Of two values that are equally near, it goes to the even one, which is the one
that is an even multiple of their distance. There is at most one such value, it grows with the
number that is rounded, and it lies on the same side of every value as that number. So what holds of
rounding follows from where it goes, and never from how it is computed.

## Main definitions

* `IsNearest`: a value is the one that a number is rounded to
* `IsPrecise`: a number with at most 53 significant bits

## Main results

* `IsNearest.unique`, `IsNearest.mono`: there is one nearest value, and it grows with the number
* `isNearest_mul`, `isNearest_roundDiv`: a rounded quotient is the nearest multiple of its divisor
* `isNearest_toPrecision`: a number is rounded to the nearest one with 53 significant bits
* `toPrecision_mono`, `toPrecision_of_isPrecise`: rounding to 53 significant bits keeps the order,
  and the numbers that have no more
-/

namespace SourceGuard

/-! ## The nearest value -/

/-- A number is rounded to the nearest of certain values. Of two that are equally near, it is the
even one: an even multiple of their distance. -/
structure IsNearest (values : Nat → Prop) (n v : Nat) : Prop where
  /-- It is one of the values. -/
  mem : values v
  /-- No value is nearer. -/
  dist_le : ∀ w, values w → n.dist v ≤ n.dist w
  /-- A tie goes to the even one. -/
  even : ∀ w, values w → w ≠ v → n.dist w = n.dist v → 2 * v.dist w ∣ v

namespace IsNearest

variable {values : Nat → Prop} {n n' v v' w : Nat}

/-- **There is one nearest value.** -/
theorem unique (h : IsNearest values n v) (h' : IsNearest values n v') : v = v' := by
  by_contra hne
  have htie : n.dist v' = n.dist v :=
    Nat.le_antisymm (h'.dist_le v h.mem) (h.dist_le v' h'.mem)
  have hv : 2 * v.dist v' ∣ v := h.even v' h'.mem (Ne.symm hne) htie
  have hv' : 2 * v.dist v' ∣ v' := by
    rw [Nat.dist_comm]
    exact h'.even v h.mem hne htie.symm
  -- both are even multiples of their distance, which would then be one as well
  have hdist : 2 * v.dist v' ∣ v.dist v' := Nat.dvd_add (Nat.dvd_sub hv hv') (Nat.dvd_sub hv' hv)
  have hpos : 0 < v.dist v' := Nat.dist_pos_of_ne hne
  have hle := Nat.le_of_dvd hpos hdist
  omega

/-- **The nearest value grows** with the number. -/
theorem mono (hle : n ≤ n') (h : IsNearest values n v) (h' : IsNearest values n' v') : v ≤ v' := by
  by_contra hlt
  have hn : n.dist v ≤ n.dist v' := h.dist_le v' h'.mem
  have hn' : n'.dist v' ≤ n'.dist v := h'.dist_le v h.mem
  simp only [Nat.dist] at hn hn'
  -- the values are in the wrong order only if both numbers are in the middle between them
  obtain rfl : n = n' := by omega
  exact hlt (Nat.le_of_eq (h.unique h'))

/-- A value is rounded to itself. -/
theorem of_values (h : values n) : IsNearest values n n where
  mem := h
  dist_le w _ := by simp [Nat.dist]
  even w _ hne htie := by
    rw [Nat.dist_self] at htie
    exact absurd (Nat.eq_of_dist_eq_zero htie).symm hne

/-- A number below a value is not rounded past it. -/
theorem le_of_le (h : IsNearest values n v) (hw : values w) (hle : n ≤ w) : v ≤ w :=
  h.mono hle (of_values hw)

/-- A number above a value is not rounded past it. -/
theorem le_of_ge (h : IsNearest values n v) (hw : values w) (hle : w ≤ n) : w ≤ v :=
  (of_values hw).mono hle h

end IsNearest

/-! ## Rounded quotients -/

/-- A quotient in the middle of two whole numbers is rounded to the even one. -/
theorem roundDiv_mod_two {n d : Nat} (h : 2 * n.dist (roundDiv n d * d) = d) (hd : 0 < d) :
    roundDiv n d % 2 = 0 := by
  have hdiv := Nat.div_add_mod n d
  have hmod := Nat.mod_lt n hd
  rw [Nat.mul_comm] at hdiv
  simp only [roundDiv, Nat.dist] at h ⊢
  split at h
  case isTrue hlow => omega
  split at h
  case isTrue hhigh =>
    rw [Nat.add_mul, Nat.one_mul] at h
    omega
  case isFalse hlow hhigh =>
    rw [if_neg hlow, if_neg hhigh]
    omega

/-- **The nearest multiple** is the one that is at most half a step away, and in the middle of two
the even one. -/
theorem isNearest_mul {n d q : Nat} (hhalf : 2 * n.dist (q * d) ≤ d)
    (heven : 2 * n.dist (q * d) = d → q % 2 = 0) : IsNearest (d ∣ ·) n (q * d) := by
  -- other multiples are at least one step away
  have hstep : ∀ k, k ≠ q → d * k + d ≤ q * d ∨ q * d + d ≤ d * k := by
    intro k hne
    rw [Nat.mul_comm d k, ← Nat.succ_mul, ← Nat.succ_mul]
    rcases Nat.lt_or_gt_of_ne hne with hlt | hlt
    · exact Or.inl (Nat.mul_le_mul_right d hlt)
    · exact Or.inr (Nat.mul_le_mul_right d hlt)
  simp only [Nat.dist] at hhalf heven
  refine ⟨Nat.dvd_mul_left d q, ?_, ?_⟩
  · rintro w ⟨k, rfl⟩
    rcases eq_or_ne k q with rfl | hne
    · rw [Nat.mul_comm]
    · have hk := hstep k hne
      simp only [Nat.dist]
      omega
  · rintro w ⟨k, rfl⟩ hne htie
    have hk := hstep k (by rintro rfl; exact hne (Nat.mul_comm d k))
    simp only [Nat.dist] at htie ⊢
    -- a tie is in the middle of two neighbours
    have hapart : q * d - d * k + (d * k - q * d) = d := by omega
    have hmiddle : 2 * (n - q * d + (q * d - n)) = d := by omega
    rw [hapart]
    exact Nat.mul_dvd_mul_right (Nat.dvd_of_mod_eq_zero (heven hmiddle)) d

/-- **A rounded quotient** is the nearest multiple of the divisor. -/
theorem isNearest_roundDiv (n : Nat) {d : Nat} (hd : 0 < d) :
    IsNearest (d ∣ ·) n (roundDiv n d * d) := by
  have hlow := roundDiv_mul_le n hd
  have hhigh := le_roundDiv_mul n hd
  refine isNearest_mul ?_ (fun hmiddle => roundDiv_mod_two hmiddle hd)
  simp only [Nat.dist]
  omega

/-- The numbers that are rounded to an even multiple are those at most half a step away from it. -/
theorem isNearest_mul_iff_of_even {n d q : Nat} (hd : 0 < d) (hq : q % 2 = 0) :
    IsNearest (d ∣ ·) n (q * d) ↔ 2 * n.dist (q * d) ≤ d := by
  constructor
  · intro h
    have hlow := roundDiv_mul_le n hd
    have hhigh := le_roundDiv_mul n hd
    rw [h.unique (isNearest_roundDiv n hd)]
    simp only [Nat.dist]
    omega
  · exact fun hhalf => isNearest_mul hhalf fun _ => hq

/-! ## Numbers with 53 significant bits -/

/-- A number with at most 53 significant bits. -/
def IsPrecise (n : Nat) : Prop := ∃ bits e, bits < 2 ^ 53 ∧ n = bits * 2 ^ e

theorem isPrecise_of_lt {n : Nat} (h : n < 2 ^ 53) : IsPrecise n :=
  ⟨n, 0, h, (Nat.mul_one n).symm⟩

theorem IsPrecise.mul_two_pow {n : Nat} (h : IsPrecise n) (e : Nat) : IsPrecise (n * 2 ^ e) := by
  obtain ⟨bits, f, hbits, rfl⟩ := h
  exact ⟨bits, f + e, hbits, by rw [Nat.pow_add, Nat.mul_assoc]⟩

theorem isPrecise_of_le {n : Nat} (h : n ≤ 2 ^ 53) : IsPrecise n := by
  rcases Nat.lt_or_eq_of_le h with hlt | rfl
  · exact isPrecise_of_lt hlt
  · exact ⟨1, 53, by decide, (Nat.one_mul _).symm⟩

/-- Without its excess bits a number has 53. -/
theorem lt_mul_excess (n : Nat) : n < 2 ^ 53 * 2 ^ excessBits n := by
  have h : n < 2 ^ (n.log2 + 1) := Nat.lt_log2_self
  rw [← Nat.pow_add]
  exact Nat.lt_of_lt_of_le h (Nat.pow_le_pow_right (by decide) (by unfold excessBits; omega))

/-- If a number has excess bits, it has 53 without them. -/
theorem mul_excess_le {n : Nat} (h : 0 < excessBits n) : 2 ^ 52 * 2 ^ excessBits n ≤ n := by
  unfold excessBits at h ⊢
  have hn : n ≠ 0 := by
    rintro rfl
    simp at h
  rw [← Nat.pow_add, show 52 + (n.log2 + 1 - 53) = n.log2 by omega]
  exact Nat.log2_self_le hn

/-- A number with at most 53 significant bits is a multiple of a power of two, or too small to have
53 bits above it. -/
theorem IsPrecise.dvd_or_lt {w : Nat} (h : IsPrecise w) (e : Nat) :
    2 ^ e ∣ w ∨ 0 < e ∧ w < 2 ^ 52 * 2 ^ e := by
  obtain ⟨bits, f, hbits, rfl⟩ := h
  rcases Nat.lt_or_ge f e with hlt | hge
  · refine Or.inr ⟨by omega, ?_⟩
    calc bits * 2 ^ f < 2 ^ 53 * 2 ^ f := Nat.mul_lt_mul_of_pos_right hbits (Nat.two_pow_pos f)
      _ = 2 ^ (53 + f) := (Nat.pow_add 2 53 f).symm
      _ ≤ 2 ^ (52 + e) := Nat.pow_le_pow_right (by decide) (by omega)
      _ = 2 ^ 52 * 2 ^ e := Nat.pow_add 2 52 e
  · exact Or.inl (Nat.dvd_mul_left_of_dvd (Nat.pow_dvd_pow 2 hge) bits)

theorem toPrecision_eq (n : Nat) :
    toPrecision n = roundDiv n (2 ^ excessBits n) * 2 ^ excessBits n := by
  rw [toPrecision, Nat.one_shiftLeft, Nat.shiftLeft_eq]

theorem isPrecise_toPrecision (n : Nat) : IsPrecise (toPrecision n) := by
  have hnear := isNearest_roundDiv n (Nat.two_pow_pos (excessBits n))
  have hle : roundDiv n (2 ^ excessBits n) * 2 ^ excessBits n ≤ 2 ^ 53 * 2 ^ excessBits n :=
    hnear.le_of_le (Nat.dvd_mul_left _ _) (lt_mul_excess n).le
  rw [toPrecision_eq]
  exact (isPrecise_of_le (Nat.le_of_mul_le_mul_right hle (Nat.two_pow_pos _))).mul_two_pow _

/-- **A number is rounded to the nearest one with at most 53 significant bits.** -/
theorem isNearest_toPrecision (n : Nat) : IsNearest IsPrecise n (toPrecision n) := by
  have hnear := isNearest_roundDiv n (Nat.two_pow_pos (excessBits n))
  rw [← toPrecision_eq] at hnear
  -- what is no multiple of the last place is further away than the least number with 53 bits
  -- above that place
  have hfar : ∀ w, w < 2 ^ 52 * 2 ^ excessBits n → 0 < excessBits n →
      n.dist (toPrecision n) < n.dist w := by
    intro w hw he
    have hn := mul_excess_le he
    have hle := hnear.dist_le (2 ^ 52 * 2 ^ excessBits n) (Nat.dvd_mul_left _ _)
    simp only [Nat.dist] at hle ⊢
    omega
  refine ⟨isPrecise_toPrecision n, fun w hw => ?_, fun w hw hne htie => ?_⟩
  · rcases hw.dvd_or_lt (excessBits n) with hdvd | ⟨he, hlt⟩
    · exact hnear.dist_le w hdvd
    · exact (hfar w hlt he).le
  · rcases hw.dvd_or_lt (excessBits n) with hdvd | ⟨he, hlt⟩
    · exact hnear.even w hdvd hne htie
    · exact absurd htie (hfar w hlt he).ne'

/-- **Rounding to 53 significant bits keeps the order.** -/
theorem toPrecision_mono {m n : Nat} (h : m ≤ n) : toPrecision m ≤ toPrecision n :=
  (isNearest_toPrecision m).mono h (isNearest_toPrecision n)

/-- **A number with at most 53 significant bits is kept.** -/
theorem toPrecision_of_isPrecise {n : Nat} (h : IsPrecise n) : toPrecision n = n :=
  (isNearest_toPrecision n).unique (IsNearest.of_values h)

end SourceGuard
