import FormulaChain.Proofs.Binary.Accuracy
import FormulaChain.Proofs.Decimal.Grid
import FormulaChain.Single.Numeral

/-!
# Rounding decimals

What a decimal is rounded to depends on its value only, not on the digits and the power of ten that
it is given by (`nearestRank_congr`). Ten digits come within one step of a number of the 32-bit
format (`low_near`), and a decimal one step away from such a number is rounded to it
(`nearestRank_of_near`).
-/

namespace FormulaChain

namespace Decimal

open BinaryFormat

variable {d d' : Decimal}

/-! ### Equal values -/

theorem denominator_pos (d : Decimal) : 0 < d.denominator := Nat.pow_pos (by decide)

/-- The value as a ratio of whole numbers. -/
theorem value_eq_div (d : Decimal) : d.value = d.numerator / d.denominator := by
  have hten (n : Nat) : (tenTo n : ℚ) = 10 ^ n := by
    rw [tenTo, Nat.pow_eq]
    push_cast
    rfl
  rw [value, zpow_eq_div, numerator, denominator, Nat.cast_mul, hten, hten, mul_div_assoc]

theorem value_eq_zero_iff : d.value = 0 ↔ d.significand = 0 := by
  have hpower : (10 : ℚ) ^ d.exponent ≠ 0 := (zpow_pos (by norm_num) _).ne'
  rw [value, mul_eq_zero, or_iff_left hpower, Nat.cast_eq_zero]

/-- The powers of ten around a decimal. -/
theorem power_bounds (h : 0 < d.significand) :
    (10 : ℚ) ^ (d.exponent + digitCount d.significand - 1) ≤ d.value ∧
      d.value < 10 ^ (d.exponent + digitCount d.significand) := by
  obtain ⟨hlow, hhigh⟩ := digitCount_bounds h
  have hpos : 0 < digitCount d.significand := Nat.length_toDigits_pos
  have hunit : (0 : ℚ) < 10 ^ d.exponent := zpow_pos (by norm_num) _
  generalize digitCount d.significand = count at *
  have hfirst : (10 : ℚ) ^ (d.exponent + count - 1) = (10 ^ (count - 1) : ℕ) * 10 ^ d.exponent := by
    rw [Nat.cast_pow, Nat.cast_ofNat, ← zpow_natCast, ← zpow_add₀ (by norm_num)]
    congr 1
    omega
  have hlast : (10 : ℚ) ^ (d.exponent + count) = (10 ^ count : ℕ) * 10 ^ d.exponent := by
    rw [Nat.cast_pow, Nat.cast_ofNat, ← zpow_natCast, ← zpow_add₀ (by norm_num)]
    congr 1
    omega
  rw [hfirst, hlast, value]
  exact ⟨mul_le_mul_of_nonneg_right (Nat.cast_le.mpr hlow) hunit.le,
    mul_lt_mul_of_pos_right (Nat.cast_lt.mpr hhigh) hunit⟩

/-- Of two decimals, the first digit of the greater one has no less weight. -/
theorem power_le_power (h : 0 < d.significand) (h' : 0 < d'.significand)
    (hle : d.value ≤ d'.value) :
    d.exponent + digitCount d.significand ≤ d'.exponent + digitCount d'.significand := by
  have hpowers := (power_bounds h).1.trans_lt (hle.trans_lt (power_bounds h').2)
  have := (zpow_lt_zpow_iff_right₀ (by norm_num : (1 : ℚ) < 10)).mp hpowers
  omega

/-- **Decimals of one value are rounded alike.** -/
theorem nearestRank_congr (f : BinaryFormat) (h : d.value = d'.value) :
    d.nearestRank f = d'.nearestRank f := by
  have hzero : d.significand = 0 ↔ d'.significand = 0 := by
    rw [← value_eq_zero_iff, h, value_eq_zero_iff]
  unfold nearestRank
  by_cases hd : d.significand = 0
  · rw [if_pos hd, if_pos (hzero.mp hd)]
  · have hpos : 0 < d.significand := Nat.pos_of_ne_zero hd
    have hpos' : 0 < d'.significand := Nat.pos_of_ne_zero (mt hzero.mpr hd)
    have hpower : d.exponent + digitCount d.significand =
        d'.exponent + digitCount d'.significand :=
      le_antisymm (power_le_power hpos hpos' h.le) (power_le_power hpos' hpos h.ge)
    have hratio : f.nearestRatio d.numerator d.denominator =
        f.nearestRatio d'.numerator d'.denominator := by
      refine BinaryFormat.nearestRatio_congr d.denominator_pos d'.denominator_pos ?_
      rw [value_eq_div, value_eq_div, div_eq_div_iff (Nat.cast_ne_zero.mpr d.denominator_pos.ne')
        (Nat.cast_ne_zero.mpr d'.denominator_pos.ne')] at h
      exact_mod_cast h
    rw [if_neg hd, if_neg (mt hzero.mpr hd)]
    simp only [hpower, hratio]

/-! ### Ten digits -/

/-- A magnitude and its neighbour below on the grid of ten digits are one step apart. -/
theorem near_low {num den : ℕ} (hnum : 0 < num) (hden : 0 < den) :
    Near 1 (low num den 10).value (num / den) := by
  have hten : 0 < 10 := by decide
  obtain ⟨hdigits, -, hbelow, habove⟩ := low_bounds hnum hden hten
  generalize low num den 10 = d at hdigits hbelow habove
  have hmany : (2 : ℚ) ^ 29 ≤ d.significand :=
    le_trans (by norm_num) (show ((10 ^ 9 : ℕ) : ℚ) ≤ _ from Nat.cast_le.mpr hdigits)
  have hunit : 2 ^ 29 * (10 : ℚ) ^ d.exponent ≤ d.value :=
    mul_le_mul_of_nonneg_right hmany (by positivity)
  have hvalue : 0 ≤ d.value := le_trans (by positivity) hunit
  constructor
  · rw [pow_one]
    exact hbelow.trans (le_mul_of_one_le_right (hvalue.trans hbelow) one_le_step)
  · rw [pow_one, step]
    linarith

/-- Ten digits come near to a number of the 32-bit format. -/
theorem low_near {r : ℕ} (hr : 0 < r) (hfinite : r < binary32.infinityRank) :
    0 < (low (binary32.units r) (twoTo binary32.unitExponent) 10).significand ∧
      (low (binary32.units r) (twoTo binary32.unitExponent) 10).significand < 10 ^ 10 ∧
      Near 1 (low (binary32.units r) (twoTo binary32.unitExponent) 10).value
        (binary32.value r) := by
  obtain ⟨hleast, -⟩ := binary32_value_bounds hr hfinite
  have hnum : 0 < binary32.units r := units_pos (lt_of_lt_of_le (by positivity) hleast)
  have hden : 0 < twoTo binary32.unitExponent := twoTo_pos _
  have hten : 0 < 10 := by decide
  obtain ⟨hmany, hfew, -⟩ := low_bounds hnum hden hten
  have hnear := near_low hnum hden
  rw [units_div_twoTo] at hnear
  exact ⟨lt_of_lt_of_le (by decide) hmany, hfew, hnear⟩

/-- Whatever reader takes the ten digits of a number back to it takes its shortest decimal back. -/
theorem exists_shortestDecimal_eq {readsBack : Decimal → Bool} {r : ℕ} (hr : 0 < r)
    (hlow : readsBack (low (binary32.units r) (twoTo binary32.unitExponent) 10) = true)
    (tie : DecimalTie) :
    ∃ d, readsBack d = true ∧ Single.shortestDecimal readsBack tie r = d.normalize := by
  obtain ⟨d, hread, hshortest⟩ :=
    exists_shortest_eq (by decide) (by decide) hlow tie (Single.exactDecimal r)
  exact ⟨d, hread, by rw [Single.shortestDecimal, if_neg hr.ne', hshortest]⟩

/-- The digits without trailing zeros are no more than the digits. -/
theorem near_normalize {x : ℚ} (hx : 0 < x) (h : Near 1 d.value x) :
    0 < d.normalize.significand ∧ d.normalize.significand ≤ d.significand ∧
      Near 1 d.normalize.value x := by
  have hpos : 0 < d.normalize.value := by
    rw [value_normalize]
    exact h.pos hx
  refine ⟨Nat.pos_of_ne_zero fun hzero => hpos.ne' ?_, (strip_bounds _ _).1, ?_⟩
  · rw [value, hzero, Nat.cast_zero, zero_mul]
  · rw [value_normalize]
    exact h

/-! ### Numbers near by -/

/-- Digits near to a number of the 32-bit format are scaled by a moderate power of ten. -/
theorem exponent_bounds {x : ℚ} (hpos : 0 < d.significand)
    (hlt : d.significand < 10 ^ 15) (h : Near 1 d.value x) (hlow : 1 / 2 ^ 149 ≤ x)
    (hhigh : x < 2 ^ 128) : -100 ≤ d.exponent ∧ d.exponent ≤ 100 := by
  have hone : (1 : ℚ) ≤ d.significand := by exact_mod_cast hpos
  have hmany : (d.significand : ℚ) ≤ 10 ^ 15 := by exact_mod_cast hlt.le
  have hstep : step ^ 1 ≤ 2 := by norm_num [step]
  constructor
  · by_contra hsmall
    have hpower : (10 : ℚ) ^ d.exponent ≤ 10 ^ (-100 : ℤ) :=
      zpow_le_zpow_right₀ (by norm_num) (by omega)
    have hx : x ≤ 10 ^ 15 * 10 ^ (-100 : ℤ) * 2 := by
      calc x ≤ d.value * step ^ 1 := h.ge
        _ ≤ 10 ^ 15 * 10 ^ (-100 : ℤ) * 2 := by
          rw [value]
          exact mul_le_mul (mul_le_mul hmany hpower (by positivity) (by positivity)) hstep
            (pow_pos step_pos 1).le (by positivity)
    have hgap : (10 : ℚ) ^ 15 * 10 ^ (-100 : ℤ) * 2 < 1 / 2 ^ 149 := by norm_num
    exact absurd (hlow.trans hx) (not_le.mpr hgap)
  · by_contra hgreat
    have hpower : (10 : ℚ) ^ (100 : ℤ) ≤ 10 ^ d.exponent :=
      zpow_le_zpow_right₀ (by norm_num) (by omega)
    have hx : (10 : ℚ) ^ (100 : ℤ) ≤ x * 2 := by
      calc (10 : ℚ) ^ (100 : ℤ) ≤ d.significand * 10 ^ d.exponent :=
            hpower.trans (le_mul_of_one_le_left (by positivity) hone)
        _ ≤ x * step ^ 1 := h.le
        _ ≤ x * 2 := by
          have hx : 0 ≤ x := le_trans (by positivity) hlow
          gcongr
    have hgap : (2 : ℚ) ^ 128 * 2 < 10 ^ (100 : ℤ) := by norm_num
    linarith

/-- **A decimal one step away from a number is rounded to it.** -/
theorem nearestRank_of_near {r : ℕ} (hr : 0 < r) (hfinite : r < binary32.infinityRank)
    (hpos : 0 < d.significand) (hlt : d.significand < 10 ^ 15)
    (h : Near 1 d.value (binary32.value r)) : d.nearestRank .binary32 = r := by
  obtain ⟨hleast, hgreatest⟩ := binary32_value_bounds hr hfinite
  obtain ⟨hlow, hhigh⟩ := exponent_bounds hpos hlt h hleast hgreatest
  have hcount : 0 < digitCount d.significand := Nat.length_toDigits_pos
  have hcount' : digitCount d.significand ≤ 15 :=
    (Nat.length_toDigits_le_iff (by decide) (by decide)).mpr hlt
  have hgreat : twoTo (binary32.exponentBits - 1) = 128 := by decide
  have hunit : binary32.unitExponent = 149 := by decide
  have hvalue : 0 ≤ binary32.value r := le_trans (by positivity) hleast
  have hnear : Near 4 (d.numerator / d.denominator) (binary32.value r) := by
    rw [← value_eq_div]
    exact h.mono (by decide) (mul_nonneg (Nat.cast_nonneg _) (zpow_nonneg (by norm_num) _)) hvalue
  -- no decimal near a finite number is settled by its number of digits
  unfold nearestRank
  dsimp only
  rw [hgreat, hunit, if_neg hpos.ne', if_neg (by omega), if_neg (by omega)]
  exact nearestRatio_eq_of_near (by decide) hfinite d.denominator_pos hnear

end Decimal

end FormulaChain
