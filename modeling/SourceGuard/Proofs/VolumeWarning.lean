import SourceGuard.Proofs.Rounding
import SourceGuard.Rule

/-!
# The volume warning

A volume is close to a threshold beyond four fifths of it. Four fifths have no finite binary form,
so they are rounded to 53 significant bits, and their product with the threshold is rounded once
more. In practice neither matters. Rounding keeps the order, and the volume is a number with 53
significant bits itself; so a product that does not exceed the volume is not rounded past it. And a
volume beyond four fifths of a threshold of up to `2 ^ 50` is so by a fifth of a byte at least,
which leaves room for the product and for a number with 53 significant bits between it and the
volume.

## Main results

* `Rule.isNearest_warningRatio`: the ratio is the nearest one to four fifths
* `Rule.nearThreshold_iff`: the rounded comparison is that of whole numbers
* `Rule.volume_warning_exact`: the warnings of the volume rule
-/

namespace SourceGuard.Rule

/-- **The ratio** is the nearest one to four fifths. It has 53 significant bits, so that its last
place is worth one `2 ^ 53`th. -/
theorem isNearest_warningRatio :
    2 ^ 52 ≤ warningRatio ∧ warningRatio < 2 ^ 53 ∧
      IsNearest (5 ∣ ·) (4 * 2 ^ 53) (warningRatio * 5) :=
  ⟨by decide, by decide, isNearest_mul (by decide) (by decide)⟩

variable {threshold bytes : Nat}

/-- A volume of up to four fifths of a threshold is up to the rounded product. -/
theorem le_toPrecision_mul (hbytes : bytes ≤ 2 ^ 53) (h : 5 * bytes ≤ 4 * threshold) :
    bytes * 2 ^ 53 ≤ toPrecision (threshold * warningRatio) := by
  -- the ratio is not less than four fifths
  have hexact : bytes * 2 ^ 53 ≤ threshold * warningRatio := by
    unfold warningRatio
    omega
  exact (isNearest_toPrecision _).le_of_ge ((isPrecise_of_le hbytes).mul_two_pow 53) hexact

/-- A volume beyond four fifths of a threshold is beyond the rounded product. -/
theorem toPrecision_mul_lt (hthreshold : threshold ≤ 2 ^ 50) (h : 4 * threshold < 5 * bytes) :
    toPrecision (threshold * warningRatio) < bytes * 2 ^ 53 := by
  -- a larger volume leaves more room, so none beyond the largest threshold has to be looked at
  let least := min bytes (2 ^ 50)
  have hleast : 4 * threshold < 5 * least := by omega
  -- an eighth of a byte below the volume, where 53 significant bits are enough
  have hexact : threshold * warningRatio ≤ (8 * least - 1) * 2 ^ 50 := by
    unfold warningRatio
    omega
  have hprecise : IsPrecise ((8 * least - 1) * 2 ^ 50) :=
    (isPrecise_of_lt (by omega)).mul_two_pow 50
  calc toPrecision (threshold * warningRatio)
      ≤ (8 * least - 1) * 2 ^ 50 := (isNearest_toPrecision _).le_of_le hprecise hexact
    _ < bytes * 2 ^ 53 := by omega

/-- **The rounded comparison** of a volume with four fifths of a threshold is one of whole
numbers. -/
theorem nearThreshold_iff (hthreshold : threshold ≤ 2 ^ 50) (hbytes : bytes ≤ 2 ^ 53) :
    nearThreshold threshold bytes = true ↔ 4 * threshold < 5 * bytes := by
  have hkept : toPrecision threshold = threshold :=
    toPrecision_of_isPrecise (isPrecise_of_le (by omega))
  rw [nearThreshold, decide_eq_true_iff, hkept, toPrecision_of_isPrecise (isPrecise_of_le hbytes),
    Nat.shiftLeft_eq]
  constructor
  · intro hlt
    by_contra hle
    exact Nat.not_le_of_lt hlt (le_toPrecision_mul hbytes (Nat.le_of_not_lt hle))
  · exact toPrecision_mul_lt hthreshold

theorem approaching_volume (threshold : UInt64) (a : Aggregate) :
    (volume threshold).approaching a = nearThreshold threshold.toNat a.bytes.toNat := by
  simp only [volume]

/-- **The warnings of the volume rule are exact** for thresholds of up to `2 ^ 50` and volumes of up
to `2 ^ 53` bytes: with the ratio nearest to four fifths, there is a warning exactly if the volume
is more than four fifths of the threshold. So where the rule fires there is a warning as well, and a
larger volume keeps it. -/
theorem volume_warning_exact {threshold : UInt64} {a b : Aggregate}
    (hthreshold : threshold.toNat ≤ 2 ^ 50) (ha : a.bytes.toNat ≤ 2 ^ 53)
    (hb : b.bytes.toNat ≤ 2 ^ 53) :
    (2 ^ 52 ≤ warningRatio ∧ warningRatio < 2 ^ 53 ∧
        IsNearest (5 ∣ ·) (4 * 2 ^ 53) (warningRatio * 5)) ∧
      ((volume threshold).approaching a = true ↔ 5 * a.bytes.toNat > 4 * threshold.toNat) ∧
      ((volume threshold).fires a = true → (volume threshold).approaching a = true) ∧
      (a.bytes ≤ b.bytes → (volume threshold).approaching a = true →
        (volume threshold).approaching b = true) := by
  have hiff : ∀ c : Aggregate, c.bytes.toNat ≤ 2 ^ 53 →
      ((volume threshold).approaching c = true ↔ 4 * threshold.toNat < 5 * c.bytes.toNat) :=
    fun c hc => by rw [approaching_volume, nearThreshold_iff hthreshold hc]
  refine ⟨isNearest_warningRatio, hiff a ha, fun hfires => ?_, fun hle happroaching => ?_⟩
  · have hlt : threshold.toNat < a.bytes.toNat :=
      UInt64.lt_iff_toNat_lt.mp (of_decide_eq_true hfires)
    exact (hiff a ha).mpr (by omega)
  · have hbytes : a.bytes.toNat ≤ b.bytes.toNat := UInt64.le_iff_toNat_le.mp hle
    have hwarns := (hiff a ha).mp happroaching
    exact (hiff b hb).mpr (by omega)

/-- The largest threshold of whose fifths there are four whole ones: they give no warning, but one
byte more does, and so does every volume for which the rule fires. -/
theorem volume_warning_exact_at_four_fifths :
    let threshold : UInt64 := 1125899906842620
    let most : Aggregate := { bytes := 900719925474096 }
    let beyond : Aggregate := { bytes := 900719925474097 }
    let full : Aggregate := { bytes := 9007199254740992 }
    (threshold.toNat ≤ 2 ^ 50 ∧ beyond.bytes.toNat ≤ 2 ^ 53 ∧ full.bytes.toNat ≤ 2 ^ 53) ∧
      (volume threshold).approaching most = false ∧
      (volume threshold).approaching beyond = true ∧ (volume threshold).fires beyond = false ∧
      (volume threshold).fires full = true ∧ (volume threshold).approaching full = true := by
  intro threshold most beyond full
  obtain ⟨-, hmost, -, -⟩ :=
    @volume_warning_exact threshold most full (by decide) (by decide) (by decide)
  obtain ⟨-, hbeyond, -, hmono⟩ :=
    @volume_warning_exact threshold beyond full (by decide) (by decide) (by decide)
  have hwarns : (volume threshold).approaching beyond = true := hbeyond.mpr (by decide)
  refine ⟨by decide, ?_, hwarns, by decide, by decide, hmono (by decide) hwarns⟩
  exact Bool.eq_false_iff.mpr fun h => absurd (hmost.mp h) (by decide)

end SourceGuard.Rule
