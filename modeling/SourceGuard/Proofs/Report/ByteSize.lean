import SourceGuard.Proofs.Rounding
import SourceGuard.Proofs.Text.Digits
import SourceGuard.Report.ByteSize

/-!
# What a written byte count shows

A written byte count is rounded twice: the count to 53 significant bits, and what it comes to in its
unit to two decimals. Both go to the nearest value, and the unit is chosen in between. A larger
count therefore never shows less than a smaller one, even where the two are written in different
units.

The unit does not always fit what is written. It is the first one of which the count is less than
1024, but the last rounding can still reach 1024: then the text shows 1024.00 of a unit where 1.00
of the next one would do. This happens exactly to the counts that fall short of the next unit by at
most half a hundredth of their own.

## Main definitions

* `ByteSize.Shows`: a text shows a number of hundredths of a unit
* `ByteSize.IsUnitOf`: the unit of a number of bytes

## Main results

* `ByteSize.Shows.unique`: a text shows one number of one unit
* `ByteSize.shows_toText`: what a written byte count shows
* `ByteSize.worth_mono`: the order of counts is that of what they show
* `ByteSize.toText_exact`: a written byte count is correctly rounded
* `ByteSize.hundredths_eq_iff`: the counts that outgrow their unit when they are written
* `ByteSize.toText_fits`: when the unit fits what is written, and when not
-/

namespace SourceGuard.ByteSize

/-! ## Reading a written count -/

/-- A text shows a number of hundredths of a unit, with two decimals. -/
def Shows (text : String) (shown k : Nat) : Prop :=
  ∃ name, unitNames[k]? = some name ∧
    text.toList = Text.decimal (shown / 100) ++ '.' :: (shown / 10 % 10).digitChar ::
      (shown % 10).digitChar :: ' ' :: name.toList

theorem digitChar_injective {c d : Nat} (hc : c < 10) (hd : d < 10)
    (h : c.digitChar = d.digitChar) : c = d := by
  have hvalue := Text.digitValue?_digitChar (show c < 16 by omega)
  rw [h, Text.digitValue?_digitChar (by omega)] at hvalue
  exact (Option.some.inj hvalue).symm

/-- **A text shows one number of one unit.** -/
theorem Shows.unique {text : String} {shown shown' k k' : Nat} (h : Shows text shown k)
    (h' : Shows text shown' k') : shown = shown' ∧ k = k' := by
  obtain ⟨name, hname, htext⟩ := h
  obtain ⟨name', hname', htext'⟩ := h'
  have hpoint : ∀ t : List Char, ('.' :: t).head?.any (Text.isDigitOf 10) = false := fun _ => rfl
  obtain ⟨hwhole, hrest⟩ :=
    Text.decimal_append_inj (hpoint _) (hpoint _) (htext.symm.trans htext')
  simp only [List.cons.injEq, true_and] at hrest
  obtain ⟨htenth, hhundredth, hunit⟩ := hrest
  have htenth := digitChar_injective (by omega) (by omega) htenth
  have hhundredth := digitChar_injective (by omega) (by omega) hhundredth
  refine ⟨by omega, ?_⟩
  have hnodup : unitNames.Nodup := by decide
  obtain rfl : name = name' := String.toList_injective hunit
  exact (List.getElem?_inj (List.getElem?_eq_some_iff.mp hname).1 hnodup).mp
    (hname.trans hname'.symm)

/-! ## The unit -/

/-- The unit of a number of bytes: the first one of which it is less than 1024, and the last one if
there is none. -/
structure IsUnitOf (bytes k : Nat) : Prop where
  /-- There are five units. -/
  le_four : k ≤ 4
  /-- The number is less than 1024 of its unit, but for the last one. -/
  lt : k < 4 → bytes < 1024 ^ (k + 1)
  /-- Of earlier units it is not. -/
  le : ∀ j < k, 1024 ^ (j + 1) ≤ bytes

/-- A number is at least one of its unit. -/
theorem IsUnitOf.pow_le {bytes k : Nat} (h : IsUnitOf bytes k) (hk : 0 < k) :
    1024 ^ k ≤ bytes := by
  have hle := h.le (k - 1) (by omega)
  rwa [Nat.sub_add_cancel hk] at hle

/-- A larger number has no smaller unit. -/
theorem IsUnitOf.mono {a b j k : Nat} (hle : a ≤ b) (ha : IsUnitOf a j) (hb : IsUnitOf b k) :
    j ≤ k := by
  by_contra hlt
  have hfour := ha.le_four
  have hlow := ha.le k (by omega)
  have hhigh := hb.lt (by omega)
  omega

theorem isUnitOf_unit (bytes : Nat) : IsUnitOf bytes (unit bytes) := by
  have hle : ∀ {k : Nat}, 1024 ^ k ≤ bytes → ∀ j < k, 1024 ^ (j + 1) ≤ bytes := fun hk _ hj =>
    Nat.le_trans (Nat.pow_le_pow_right (by decide) hj) hk
  unfold unit
  split_ifs with h0 h1 h2 h3
  · exact ⟨by decide, fun _ => h0, nofun⟩
  · exact ⟨by decide, fun _ => h1, hle (Nat.le_of_not_lt h0)⟩
  · exact ⟨by decide, fun _ => h2, hle (Nat.le_of_not_lt h1)⟩
  · exact ⟨by decide, fun _ => h3, hle (Nat.le_of_not_lt h2)⟩
  · exact ⟨by decide, fun h => absurd h (by decide), hle (Nat.le_of_not_lt h3)⟩

/-! ## The number -/

/-- What a count comes to in its unit is rounded to the nearest hundredth. -/
theorem isNearest_hundredths (count : Nat) :
    IsNearest (1024 ^ unit (toPrecision count) ∣ ·) (toPrecision count * 100)
      (hundredths count * 1024 ^ unit (toPrecision count)) := by
  have hpow : 1 <<< (10 * unit (toPrecision count)) = 1024 ^ unit (toPrecision count) := by
    rw [Nat.one_shiftLeft, Nat.pow_mul]
  simp only [hundredths, hpow]
  exact isNearest_roundDiv _ (Nat.pow_pos (by decide))

/-- **What a written byte count shows.** -/
theorem shows_toText (count : Nat) :
    Shows (toText count) (hundredths count) (unit (toPrecision count)) := by
  have hunit : unit (toPrecision count) < unitNames.length :=
    Nat.lt_succ_of_le (isUnitOf_unit (toPrecision count)).le_four
  have hdigit : ∀ d < 10, Text.decimal d = [d.digitChar] := fun _ => Nat.toDigits_of_lt_base
  refine ⟨unitNames[unit (toPrecision count)], List.getElem?_eq_getElem hunit, ?_⟩
  rw [toText, String.toList_ofList, chars, twoDecimals, List.getElem?_eq_getElem hunit,
    hdigit (hundredths count / 10 % 10) (Nat.mod_lt _ (by decide)),
    hdigit (hundredths count % 10) (Nat.mod_lt _ (by decide))]
  simp

/-- At most 1024 of a unit are written, the last unit apart. -/
theorem hundredths_le (count : Nat) (h : unit (toPrecision count) < 4) :
    hundredths count ≤ 102400 := by
  have hlt := (isUnitOf_unit (toPrecision count)).lt h
  rw [Nat.pow_succ'] at hlt
  have hle : hundredths count * 1024 ^ unit (toPrecision count) ≤
      102400 * 1024 ^ unit (toPrecision count) :=
    (isNearest_hundredths count).le_of_le (Nat.dvd_mul_left _ _) (by omega)
  exact Nat.le_of_mul_le_mul_right hle (Nat.pow_pos (by decide))

/-- At least one of a unit is written, the first unit apart. -/
theorem le_hundredths (count : Nat) (h : 0 < unit (toPrecision count)) :
    100 ≤ hundredths count := by
  have hpow := (isUnitOf_unit (toPrecision count)).pow_le h
  have hle : 100 * 1024 ^ unit (toPrecision count) ≤
      hundredths count * 1024 ^ unit (toPrecision count) :=
    (isNearest_hundredths count).le_of_ge (Nat.dvd_mul_left _ _) (by omega)
  exact Nat.le_of_mul_le_mul_right hle (Nat.pow_pos (by decide))

/-- **The order of counts is that of what they show.** -/
theorem worth_mono {a b : Nat} (h : a ≤ b) :
    hundredths a * 1024 ^ unit (toPrecision a) ≤ hundredths b * 1024 ^ unit (toPrecision b) := by
  have hkept := toPrecision_mono h
  have hunit := (isUnitOf_unit (toPrecision a)).mono hkept (isUnitOf_unit (toPrecision b))
  have hfour := (isUnitOf_unit (toPrecision b)).le_four
  have ha := isNearest_hundredths a
  have hb := isNearest_hundredths b
  rcases Nat.lt_or_eq_of_le hunit with hlt | heq
  · -- one of the larger unit lies between the two
    have hsmall := hundredths_le a (by omega)
    have hlarge := le_hundredths b (by omega)
    calc hundredths a * 1024 ^ unit (toPrecision a)
        ≤ 102400 * 1024 ^ unit (toPrecision a) := Nat.mul_le_mul_right _ hsmall
      _ = 100 * 1024 ^ (unit (toPrecision a) + 1) := by rw [Nat.pow_succ']; omega
      _ ≤ 100 * 1024 ^ unit (toPrecision b) :=
          Nat.mul_le_mul_left _ (Nat.pow_le_pow_right (by decide) hlt)
      _ ≤ hundredths b * 1024 ^ unit (toPrecision b) := Nat.mul_le_mul_right _ hlarge
  · rw [← heq] at hb ⊢
    exact ha.mono (Nat.mul_le_mul_right 100 hkept) hb

/-- **A written byte count is correctly rounded.** The count is rounded to 53 significant bits,
which changes none below `2 ^ 53`; its unit is the first one of which that is less than 1024, and
terabytes if there is none; and the text shows what it comes to in that unit, rounded to the nearest
hundredth. A tie goes to the even value both times. A larger count never shows less. -/
theorem toText_exact (count : Nat) :
    (∃ kept shown k, Shows (toText count) shown k ∧ IsNearest IsPrecise count kept ∧
        (count < 2 ^ 53 → kept = count) ∧ IsUnitOf kept k ∧
        IsNearest (1024 ^ k ∣ ·) (kept * 100) (shown * 1024 ^ k)) ∧
      ∀ larger shown shown' k k', count ≤ larger → Shows (toText count) shown k →
        Shows (toText larger) shown' k' → shown * 1024 ^ k ≤ shown' * 1024 ^ k' := by
  refine ⟨⟨toPrecision count, hundredths count, unit (toPrecision count), shows_toText count,
    isNearest_toPrecision count, fun hlt => toPrecision_of_lt (Nat.one_shiftLeft 53 ▸ hlt),
    isUnitOf_unit _, isNearest_hundredths count⟩, ?_⟩
  intro larger shown shown' k k' hle h h'
  obtain ⟨rfl, rfl⟩ := h.unique (shows_toText count)
  obtain ⟨rfl, rfl⟩ := h'.unique (shows_toText larger)
  exact worth_mono hle

/-- The last kilobytes and the first megabyte show the same, in different units. -/
theorem toText_exact_at_megabyte :
    1048575 ≤ 1048576 ∧ toText 1048575 = "1024.00 KB" ∧ toText 1048576 = "1.00 MB" ∧
      Shows (toText 1048575) 102400 1 ∧ Shows (toText 1048576) 100 2 ∧
      102400 * 1024 ^ 1 ≤ 100 * 1024 ^ 2 := by
  have hsmall : Shows (toText 1048575) 102400 1 := shows_toText 1048575
  have hlarge : Shows (toText 1048576) 100 2 := shows_toText 1048576
  exact ⟨by decide, by decide +kernel, by decide +kernel, hsmall, hlarge,
    (toText_exact 1048575).2 1048576 _ _ _ _ (by decide) hsmall hlarge⟩

/-! ## Where the unit does not fit -/

/-- Rounding a count to 53 significant bits leaves its unit. -/
theorem isUnitOf_count (count : Nat) : IsUnitOf count (unit (toPrecision count)) := by
  have hkept := isUnitOf_unit (toPrecision count)
  rcases Nat.lt_or_ge count (2 ^ 53) with hlt | hge
  · rwa [toPrecision_of_lt (Nat.one_shiftLeft 53 ▸ hlt)] at hkept ⊢
  · -- what is rounded is far beyond the last bound
    have hle : 2 ^ 53 ≤ toPrecision count :=
      (isNearest_toPrecision count).le_of_ge (isPrecise_of_le (Nat.le_refl _)) hge
    have hbound : ∀ k < 4, 1024 ^ (k + 1) ≤ 1024 ^ 4 := fun k hk =>
      Nat.pow_le_pow_right (by decide) hk
    have hunit : ¬ unit (toPrecision count) < 4 := by
      intro h
      have hlt := hkept.lt h
      have hsmall := hbound _ h
      omega
    refine ⟨hkept.le_four, fun h => absurd h hunit, ?_⟩
    intro k hk
    have hfour := hkept.le_four
    have hsmall := hbound k (by omega)
    omega

/-- **A unit is outgrown** by the counts that fall short of the next one by at most half a hundredth
of it. -/
theorem hundredths_eq_iff (count : Nat) (h : unit (toPrecision count) < 4) :
    hundredths count = 102400 ↔ 204799 * 1024 ^ unit (toPrecision count) ≤ 200 * count := by
  have hlt := (isUnitOf_count count).lt h
  have hkept : toPrecision count = count := by
    have hbound : 1024 ^ (unit (toPrecision count) + 1) ≤ 1024 ^ 4 :=
      Nat.pow_le_pow_right (by decide) h
    exact toPrecision_of_lt (by rw [Nat.one_shiftLeft]; omega)
  have hnear := isNearest_hundredths count
  rw [hkept] at hlt hnear ⊢
  rw [Nat.pow_succ'] at hlt
  have hpos : 0 < 1024 ^ unit count := Nat.pow_pos (by decide)
  calc hundredths count = 102400
      ↔ IsNearest (1024 ^ unit count ∣ ·) (count * 100) (102400 * 1024 ^ unit count) :=
        ⟨fun heq => heq ▸ hnear, fun hnext => Nat.eq_of_mul_eq_mul_right hpos (hnear.unique hnext)⟩
    _ ↔ 2 * (count * 100).dist (102400 * 1024 ^ unit count) ≤ 1024 ^ unit count :=
        isNearest_mul_iff_of_even hpos rfl
    _ ↔ 204799 * 1024 ^ unit count ≤ 200 * count := by
        simp only [Nat.dist]
        omega

/-- **When the unit fits what is written.** At least one of a unit is written, bytes apart, and at
most 1024 of it, terabytes apart. It is 1024 exactly for the counts that fall short of the next unit
by at most half a hundredth of their own; so it never is in bytes. -/
theorem toText_fits (count : Nat) :
    ∃ shown k, Shows (toText count) shown k ∧ IsUnitOf count k ∧
      (k ≠ 0 → 100 ≤ shown) ∧ (k ≠ 4 → shown ≤ 102400) ∧
      (k ≠ 4 → (shown = 102400 ↔ 204799 * 1024 ^ k ≤ 200 * count)) ∧
      (k = 0 → shown < 102400) := by
  have hunit := isUnitOf_count count
  have hfour := hunit.le_four
  have hlast : unit (toPrecision count) ≠ 4 → unit (toPrecision count) < 4 := by omega
  refine ⟨hundredths count, unit (toPrecision count), shows_toText count, hunit,
    fun h => le_hundredths count (Nat.pos_of_ne_zero h), fun h => hundredths_le count (hlast h),
    fun h => hundredths_eq_iff count (hlast h), fun h => ?_⟩
  have hfew : unit (toPrecision count) < 4 := by omega
  have hlt := hunit.lt hfew
  have hmost := hundredths_le count hfew
  have hiff := hundredths_eq_iff count hfew
  rw [h] at hlt hiff
  omega

/-- **A unit that does not fit**: one byte less than a megabyte is written as 1024.00 kilobytes. -/
theorem outgrown_below_megabyte :
    toText 1048575 = "1024.00 KB" ∧
      ¬ ∀ shown k, Shows (toText 1048575) shown k →
        (k ≠ 0 → 100 ≤ shown) ∧ (k ≠ 4 → shown < 102400) := by
  refine ⟨by decide +kernel, fun h => ?_⟩
  have hshows : Shows (toText 1048575) 102400 1 := shows_toText 1048575
  exact absurd ((h _ _ hshows).2 (by decide)) (by decide)

end SourceGuard.ByteSize
