import FormulaChain.Proofs.Binary.Rounding
import Mathlib.Algebra.Order.Field.Basic
import Mathlib.Data.Rat.Cast.Order
import Mathlib.Tactic.FieldSimp
import Mathlib.Tactic.GCongr
import Mathlib.Tactic.NormNum
import Mathlib.Tactic.Positivity

/-!
# Accuracy of roundings

Two positive numbers are near if each is at most the other times a number of small steps
(`Near`). Steps add up over products, quotients and chains of approximations, so that the accuracy
of a calculation is the number of its roundings. In a format with enough bits a rounding is one step
(`near_nearestRatio`, `near_multiply`, `near_divide`), and a number four steps off a 32-bit number
is rounded to that number (`nearestRatio_eq_of_near`).
-/

namespace FormulaChain

/-- One step away from a number, relative to it. -/
def step : ℚ := 1 + 1 / 2 ^ 29

theorem one_le_step : 1 ≤ step := by norm_num [step]

theorem step_pos : 0 < step := zero_lt_one.trans_le one_le_step

/-- Two numbers are at most a number of steps apart. -/
structure Near (n : ℕ) (x y : ℚ) : Prop where
  /-- The first is not much greater. -/
  le : x ≤ y * step ^ n
  /-- Nor is the second. -/
  ge : y ≤ x * step ^ n

namespace Near

variable {m n : ℕ} {x y z x' y' : ℚ}

theorem symm (h : Near n x y) : Near n y x := ⟨h.ge, h.le⟩

theorem trans (h : Near m x y) (h' : Near n y z) : Near (m + n) x z := by
  have hpow : 0 ≤ step ^ m := (pow_pos step_pos m).le
  have hpow' : 0 ≤ step ^ n := (pow_pos step_pos n).le
  constructor
  · calc x ≤ y * step ^ m := h.le
      _ ≤ z * step ^ n * step ^ m := mul_le_mul_of_nonneg_right h'.le hpow
      _ = z * step ^ (m + n) := by ring
  · calc z ≤ y * step ^ n := h'.ge
      _ ≤ x * step ^ m * step ^ n := mul_le_mul_of_nonneg_right h.ge hpow'
      _ = x * step ^ (m + n) := by ring

theorem mul (h : Near m x y) (h' : Near n x' y') (hx : 0 ≤ x) (hx' : 0 ≤ x') (hy : 0 ≤ y)
    (hy' : 0 ≤ y') : Near (m + n) (x * x') (y * y') := by
  have hpow : 0 ≤ step ^ m := (pow_pos step_pos m).le
  constructor
  · calc x * x' ≤ y * step ^ m * (y' * step ^ n) :=
          mul_le_mul h.le h'.le hx' (mul_nonneg hy hpow)
      _ = y * y' * step ^ (m + n) := by ring
  · calc y * y' ≤ x * step ^ m * (x' * step ^ n) :=
          mul_le_mul h.ge h'.ge hy' (mul_nonneg hx hpow)
      _ = x * x' * step ^ (m + n) := by ring

theorem inv (h : Near n x y) (hx : 0 < x) (hy : 0 < y) : Near n x⁻¹ y⁻¹ := by
  have hpow : 0 < step ^ n := pow_pos step_pos n
  constructor
  · rw [inv_mul_eq_div, inv_eq_one_div, div_le_div_iff₀ hx hy, one_mul, mul_comm]
    exact h.ge
  · rw [inv_mul_eq_div, inv_eq_one_div, div_le_div_iff₀ hy hx, one_mul, mul_comm]
    exact h.le

theorem div (h : Near m x y) (h' : Near n x' y') (hx : 0 ≤ x) (hx' : 0 < x') (hy : 0 ≤ y)
    (hy' : 0 < y') : Near (m + n) (x / x') (y / y') := by
  rw [div_eq_mul_inv, div_eq_mul_inv]
  exact h.mul (h'.inv hx' hy') hx (inv_nonneg.mpr hx'.le) hy (inv_nonneg.mpr hy'.le)

theorem mono (h : Near m x y) (hmn : m ≤ n) (hx : 0 ≤ x) (hy : 0 ≤ y) : Near n x y := by
  have hpow : step ^ m ≤ step ^ n := pow_le_pow_right₀ one_le_step hmn
  exact ⟨h.le.trans (mul_le_mul_of_nonneg_left hpow hy),
    h.ge.trans (mul_le_mul_of_nonneg_left hpow hx)⟩

theorem pos (h : Near n x y) (hy : 0 < y) : 0 < x :=
  pos_of_mul_pos_left (hy.trans_le h.ge) (pow_pos step_pos n).le

end Near

namespace BinaryFormat

variable {f : BinaryFormat}

/-- The number that a rank stands for. -/
def value (f : BinaryFormat) (rank : Nat) : ℚ := f.units rank / 2 ^ f.unitExponent

theorem units_div_twoTo (f : BinaryFormat) (rank : Nat) :
    (f.units rank : ℚ) / (twoTo f.unitExponent : ℕ) = f.value rank := by
  rw [value, twoTo_eq]
  push_cast
  rfl

theorem units_pos {rank : Nat} (h : 0 < f.value rank) : 0 < f.units rank := by
  refine Nat.pos_of_ne_zero fun hzero => h.ne' ?_
  rw [value, hzero, Nat.cast_zero, zero_div]

/-- A number far from the ends of a format. -/
structure InRange (f : BinaryFormat) (x : ℚ) : Prop where
  /-- It needs no shift to have all bits. -/
  low : 2 ^ f.fractionBits / 2 ^ f.unitExponent ≤ x
  /-- The exponent of the format has room for it. -/
  high : x < 2 ^ (f.fractionBits + (2 ^ f.exponentBits - 3)) / 2 ^ f.unitExponent

theorem InRange.pos {x : ℚ} (h : f.InRange x) : 0 < x :=
  lt_of_lt_of_le (by positivity) h.low

/-- A relative error of one in `a` is less than a step if `a` is great enough. -/
theorem near_of_error {a x y : ℚ} (ha : 2 ^ 30 ≤ a) (hx : 0 ≤ x) (hlow : a * y ≤ a * x + y)
    (hhigh : a * x ≤ a * y + y) : Near 1 x y := by
  have hpos : 0 < a := lt_of_lt_of_le (by norm_num) ha
  have hy : 0 ≤ y := by nlinarith
  rw [show a * x + y = a * (x + y / a) by field_simp] at hlow
  rw [show a * y + y = a * (y + y / a) by field_simp] at hhigh
  have hlow := le_of_mul_le_mul_left hlow hpos
  have hhigh := le_of_mul_le_mul_left hhigh hpos
  have hdiv : y / a ≤ y / 2 ^ 30 := div_le_div_of_nonneg_left hy (by norm_num) ha
  constructor
  · rw [pow_one, step]
    linarith
  · rw [pow_one, step]
    linarith

/-- **A rounding is one step.** -/
theorem near_nearestRank (hbits : 29 ≤ f.fractionBits) {num den : Nat} (hden : 0 < den)
    (h : f.InRange (num / den / 2 ^ f.unitExponent)) :
    f.nearestRank num den < f.infinityRank ∧
      Near 1 (f.value (f.nearestRank num den)) (num / den / 2 ^ f.unitExponent) := by
  have hunit : (0 : ℚ) < 2 ^ f.unitExponent := by positivity
  have hden' : (0 : ℚ) < den := by exact_mod_cast hden
  have hlow : 2 ^ f.fractionBits * den ≤ num := by
    have := (div_le_div_iff_of_pos_right hunit).mp h.low
    rw [le_div_iff₀ hden'] at this
    exact_mod_cast this
  have hhigh : num < 2 ^ (f.fractionBits + (2 ^ f.exponentBits - 3)) * den := by
    have := (div_lt_div_iff_of_pos_right hunit).mp h.high
    rw [div_lt_iff₀ hden'] at this
    exact_mod_cast this
  obtain ⟨hfinite, herr, herr'⟩ := nearestRank_error hlow hhigh
  refine ⟨hfinite, ?_⟩
  have hsplit (n : ℚ) : n / 2 ^ f.unitExponent = n * den / (den * 2 ^ f.unitExponent) := by
    field_simp
  have hbound : (2 : ℚ) ^ 30 ≤ 2 ^ (f.fractionBits + 1) :=
    pow_le_pow_right₀ one_le_two (by omega)
  have hnear : Near 1 ((f.units (f.nearestRank num den) : ℚ) * den) num :=
    near_of_error hbound (by positivity) (by exact_mod_cast herr) (by exact_mod_cast herr')
  rw [value, hsplit, div_div]
  exact hnear.div (n := 0) ⟨by simp, by simp⟩ (by positivity) (by positivity) (by positivity)
    (by positivity)

/-- Rounding a ratio. -/
theorem near_nearestRatio (hbits : 29 ≤ f.fractionBits) {num den : Nat} (hden : 0 < den)
    (h : f.InRange (num / den)) :
    f.nearestRatio num den < f.infinityRank ∧
      Near 1 (f.value (f.nearestRatio num den)) (num / den) := by
  have hcancel : ((num * 2 ^ f.unitExponent : Nat) : ℚ) / den / 2 ^ f.unitExponent = num / den := by
    push_cast
    field_simp
  rw [← hcancel] at h ⊢
  exact near_nearestRank hbits hden h

/-- Multiplying magnitudes. -/
theorem near_multiply (hbits : 29 ≤ f.fractionBits) {rank rank' : Nat}
    (h : f.InRange (f.value rank * f.value rank')) :
    f.multiply rank rank' < f.infinityRank ∧
      Near 1 (f.value (f.multiply rank rank')) (f.value rank * f.value rank') := by
  have hcancel : ((f.units rank * f.units rank' : Nat) : ℚ) / (twoTo f.unitExponent : Nat) /
      2 ^ f.unitExponent = f.value rank * f.value rank' := by
    rw [Nat.cast_mul, mul_div_right_comm, units_div_twoTo, mul_div_assoc]
    rfl
  rw [← hcancel] at h ⊢
  exact near_nearestRank hbits (twoTo_pos _) h

/-- Dividing magnitudes. -/
theorem near_divide (hbits : 29 ≤ f.fractionBits) {rank rank' : Nat} (hpos : 0 < f.value rank')
    (h : f.InRange (f.value rank / f.value rank')) :
    f.divide rank rank' < f.infinityRank ∧
      Near 1 (f.value (f.divide rank rank')) (f.value rank / f.value rank') := by
  have hcancel : ((f.units rank * 2 ^ f.unitExponent : Nat) : ℚ) / f.units rank' /
      2 ^ f.unitExponent = f.value rank / f.value rank' := by
    simp only [value]
    push_cast
    field_simp
  rw [← hcancel] at h ⊢
  exact near_nearestRank hbits (units_pos hpos) h

/-- The positive finite numbers of the 32-bit format. -/
theorem binary32_value_bounds {r : ℕ} (hpos : 0 < r) (hr : r < binary32.infinityRank) :
    1 / 2 ^ 149 ≤ binary32.value r ∧ binary32.value r < 2 ^ 128 := by
  have hunit : binary32.unitExponent = 149 := by decide
  have hinfinity : binary32.infinityRank = 255 * 2 ^ 23 := by decide
  obtain ⟨shift, m, rfl, hunits, hfull, hm⟩ := binary32.exists_shift r
  have hfraction : binary32.fractionBits = 23 := rfl
  rw [hfraction] at hpos hr hunits hfull hm ⊢
  rw [hinfinity] at hr
  have hshift : shift ≤ 253 := by omega
  have hleast : 1 ≤ m * 2 ^ shift := Nat.mul_pos (by omega) (Nat.two_pow_pos _)
  have hleast' : (1 : ℚ) ≤ (m * 2 ^ shift : ℕ) := by exact_mod_cast hleast
  have hm' : (m : ℚ) < 2 ^ 24 := by exact_mod_cast hm
  rw [value, hunits, hunit]
  constructor
  · gcongr
  · rw [div_lt_iff₀ (by positivity), Nat.cast_mul, Nat.cast_pow, Nat.cast_two]
    calc (m : ℚ) * 2 ^ shift < 2 ^ 24 * 2 ^ shift := mul_lt_mul_of_pos_right hm' (by positivity)
      _ ≤ 2 ^ 24 * 2 ^ 253 :=
        mul_le_mul_of_nonneg_left (pow_le_pow_right₀ one_le_two hshift) (by positivity)
      _ = 2 ^ 128 * 2 ^ 149 := by rw [← pow_add, ← pow_add]

/-- **A number near a magnitude is rounded to it.** -/
theorem nearestRatio_eq_of_near (hbits : f.fractionBits ≤ 23) {rank num den : Nat}
    (hrank : rank < f.infinityRank) (hden : 0 < den) (h : Near 4 (num / den) (f.value rank)) :
    f.nearestRatio num den = rank := by
  have hden' : (0 : ℚ) < den := by exact_mod_cast hden
  have hunit : (0 : ℚ) < 2 ^ f.unitExponent := by positivity
  have hlast : (0 : ℚ) < 2 ^ (f.fractionBits + 3) := by positivity
  have hfour : step ^ 4 ≤ 1 + 1 / 2 ^ (f.fractionBits + 3) := by
    have hsmall : (1 : ℚ) / 2 ^ 26 ≤ 1 / 2 ^ (f.fractionBits + 3) :=
      one_div_le_one_div_of_le hlast (pow_le_pow_right₀ one_le_two (by omega))
    have hstep : step ^ 4 ≤ 1 + 1 / 2 ^ 26 := by norm_num [step]
    linarith
  -- both sides in units of the format, without the denominator
  have hscale {x y : ℚ} (hy : 0 ≤ y) (hxy : x ≤ y * step ^ 4) :
      2 ^ (f.fractionBits + 3) * x ≤ 2 ^ (f.fractionBits + 3) * y + y := by
    calc 2 ^ (f.fractionBits + 3) * x
        ≤ 2 ^ (f.fractionBits + 3) * (y * (1 + 1 / 2 ^ (f.fractionBits + 3))) := by
          gcongr
          exact hxy.trans (mul_le_mul_of_nonneg_left hfour hy)
      _ = 2 ^ (f.fractionBits + 3) * y + y := by field_simp
  have hge := h.ge
  have hle := h.le
  rw [value, div_mul_eq_mul_div, div_le_div_iff₀ hunit hden'] at hge
  rw [value, div_mul_eq_mul_div, div_le_div_iff₀ hden' hunit] at hle
  refine nearestRank_eq hrank hden ?_ ?_
  · have := hscale (x := f.units rank * den) (y := num * 2 ^ f.unitExponent) (by positivity)
      (by linarith)
    exact_mod_cast this
  · have := hscale (x := num * 2 ^ f.unitExponent) (y := f.units rank * den) (by positivity)
      (by linarith)
    exact_mod_cast this

end BinaryFormat

end FormulaChain
