import FormulaChain.Decimal.Shortest
import Mathlib.Algebra.Order.Field.Power
import Mathlib.Data.Rat.Cast.Order
import Mathlib.Tactic.FieldSimp
import Mathlib.Tactic.Linarith
import Mathlib.Tactic.Positivity
import Mathlib.Tactic.Ring

/-!
# Decimals on a grid

The value of a decimal, which does not change when its trailing zeros are dropped
(`value_normalize`), and the neighbour of a ratio on the grid of a number of digits, which lies
below the ratio by less than one part in its digits (`low_bounds`). The shortest decimal that reads
back is one that a reader was asked about, as long as on some grid the lower neighbour reads back
(`exists_shortest_eq`).
-/

namespace FormulaChain

namespace Decimal

/-- The number that a decimal stands for. -/
def value (d : Decimal) : ℚ := d.significand * 10 ^ d.exponent

/-! ### Trailing zeros -/

theorem value_strip (significand : Nat) (exponent : Int) :
    (strip significand exponent).value = significand * 10 ^ exponent := by
  fun_induction strip significand exponent with
  | case1 significand exponent h ih =>
    have hsplit : (significand : ℚ) = (significand / 10 : Nat) * 10 := by
      exact_mod_cast (Nat.div_mul_cancel (Nat.dvd_of_mod_eq_zero h.2)).symm
    rw [ih, zpow_add₀ (by norm_num), zpow_one, hsplit]
    ring
  | case2 significand exponent h => rfl

theorem strip_bounds (significand : Nat) (exponent : Int) :
    (strip significand exponent).significand ≤ significand ∧
      exponent ≤ (strip significand exponent).exponent := by
  fun_induction strip significand exponent with
  | case1 significand exponent h ih => exact ⟨by omega, by omega⟩
  | case2 significand exponent h => exact ⟨le_rfl, le_rfl⟩

/-- Dropping trailing zeros does not change the number. -/
theorem value_normalize (d : Decimal) : d.normalize.value = d.value := value_strip _ _

/-! ### The power of ten above a ratio -/

theorem digitCount_bounds {n : Nat} (h : 0 < n) :
    10 ^ (digitCount n - 1) ≤ n ∧ n < 10 ^ digitCount n := by
  have hpos : 0 < digitCount n := Nat.length_toDigits_pos
  constructor
  · by_contra hlt
    rw [Nat.not_le] at hlt
    rcases Nat.eq_zero_or_pos (digitCount n - 1) with hzero | hmore
    · rw [hzero] at hlt
      omega
    · have := (Nat.length_toDigits_le_iff (b := 10) (by decide) hmore).mpr hlt
      exact absurd this (by unfold digitCount at *; omega)
  · exact (Nat.length_toDigits_le_iff (by decide) hpos).mp le_rfl

/-- The exponent of a ratio. -/
theorem topExponent_bounds {num den : Nat} (hnum : 0 < num) (hden : 0 < den) :
    (10 : ℚ) ^ (topExponent num den - 1) ≤ num / den ∧
      (num / den : ℚ) < 10 ^ topExponent num den := by
  have hnum' : (0 : ℚ) < num := by exact_mod_cast hnum
  have hden' : (0 : ℚ) < den := by exact_mod_cast hden
  unfold topExponent
  split
  · next h =>
    have hquot : 0 < num / den := Nat.div_pos h hden
    obtain ⟨hlow, hhigh⟩ := digitCount_bounds hquot
    have hpos : 0 < digitCount (num / den) := Nat.length_toDigits_pos
    rw [Nat.le_div_iff_mul_le hden] at hlow
    rw [Nat.div_lt_iff_lt_mul hden] at hhigh
    rw [le_div_iff₀ hden', div_lt_iff₀ hden']
    have hpred : (digitCount (num / den) : Int) - 1 = (digitCount (num / den) - 1 : Nat) := by omega
    rw [hpred, zpow_natCast, zpow_natCast]
    exact ⟨by exact_mod_cast hlow, by exact_mod_cast hhigh⟩
  · next h =>
    have hquot : 0 < (den - 1) / num := Nat.div_pos (by omega) hnum
    obtain ⟨hlow, hhigh⟩ := digitCount_bounds hquot
    have hpos : 0 < digitCount ((den - 1) / num) := Nat.length_toDigits_pos
    rw [Nat.le_div_iff_mul_le hnum] at hlow
    rw [Nat.div_lt_iff_lt_mul hnum] at hhigh
    generalize digitCount ((den - 1) / num) = count at *
    have hpred : (1 : Int) - count = -((count - 1 : Nat) : Int) := by omega
    have hall : (1 : Int) - count - 1 = -(count : Int) := by omega
    rw [hall, hpred, zpow_neg, zpow_neg, zpow_natCast, zpow_natCast, inv_eq_one_div,
      inv_eq_one_div, div_le_div_iff₀ (by positivity) hden', div_lt_div_iff₀ hden' (by positivity)]
    have hlow' : 10 ^ (count - 1) * num < den := by omega
    have hhigh' : den ≤ 10 ^ count * num := by omega
    exact ⟨by rw [one_mul, mul_comm]; exact_mod_cast hhigh',
      by rw [one_mul, mul_comm]; exact_mod_cast hlow'⟩

/-! ### The grid -/

/-- A power of ten as a ratio of whole numbers. -/
theorem zpow_eq_div (e : Int) : (10 : ℚ) ^ e = 10 ^ e.toNat / 10 ^ (-e).toNat := by
  rcases Int.le_total 0 e with h | h
  · have hneg : (-e).toNat = 0 := by omega
    obtain ⟨n, rfl⟩ := Int.eq_ofNat_of_zero_le h
    rw [hneg, pow_zero, div_one, zpow_natCast, Int.toNat_natCast]
  · have hpos : e.toNat = 0 := by omega
    obtain ⟨n, hn⟩ := Int.eq_ofNat_of_zero_le (a := -e) (by omega)
    obtain rfl : e = -n := by omega
    rw [hpos, pow_zero, zpow_neg, zpow_natCast, Int.neg_neg, Int.toNat_natCast, one_div]

/-- The neighbour below a ratio. -/
theorem below_bounds (num : Nat) {den : Nat} (hden : 0 < den) (exponent : Int) :
    ((below num den exponent).1 : ℚ) * 10 ^ exponent ≤ num / den ∧
      (num / den : ℚ) < ((below num den exponent).1 + 1) * 10 ^ exponent := by
  have hden' : (0 : ℚ) < den := by exact_mod_cast hden
  have hscale : 0 < den * 10 ^ exponent.toNat := Nat.mul_pos hden (Nat.pow_pos (by decide))
  have hlow := Nat.div_mul_le_self (num * 10 ^ (-exponent).toNat) (den * 10 ^ exponent.toNat)
  have hhigh := Nat.lt_mul_div_succ (num * 10 ^ (-exponent).toNat) hscale
  have hbelow : (below num den exponent).1 =
      num * 10 ^ (-exponent).toNat / (den * 10 ^ exponent.toNat) := rfl
  rw [hbelow, zpow_eq_div, mul_div_assoc', mul_div_assoc', div_le_div_iff₀ (by positivity) hden',
    div_lt_div_iff₀ hden' (by positivity)]
  generalize num * 10 ^ (-exponent).toNat / (den * 10 ^ exponent.toNat) = floor at hlow hhigh
  have hlow' : (floor : ℚ) * (den * 10 ^ exponent.toNat) ≤ num * 10 ^ (-exponent).toNat := by
    exact_mod_cast hlow
  have hhigh' : (num : ℚ) * 10 ^ (-exponent).toNat < den * 10 ^ exponent.toNat * (floor + 1) := by
    exact_mod_cast hhigh
  constructor
  · linarith
  · linarith

/-- The neighbour below a ratio on the grid of some digits. -/
def low (num den digits : Nat) : Decimal :=
  ⟨(below num den (topExponent num den - digits)).1, topExponent num den - digits⟩

/-- It has as many digits, and is less by no more than one in the last of them. -/
theorem low_bounds {num den digits : Nat} (hnum : 0 < num) (hden : 0 < den) (hdigits : 0 < digits) :
    10 ^ (digits - 1) ≤ (low num den digits).significand ∧
      (low num den digits).significand < 10 ^ digits ∧
      (low num den digits).value ≤ num / den ∧
      (num / den : ℚ) < (low num den digits).value + 10 ^ (low num den digits).exponent := by
  obtain ⟨htop, htop'⟩ := topExponent_bounds hnum hden
  obtain ⟨hbelow, hbelow'⟩ := below_bounds num hden (topExponent num den - digits)
  have hunit : (0 : ℚ) < 10 ^ (topExponent num den - digits) := by positivity
  have hfirst : (10 : ℚ) ^ (topExponent num den - 1) =
      10 ^ (digits - 1) * 10 ^ (topExponent num den - digits) := by
    rw [← zpow_natCast, ← zpow_add₀ (by norm_num)]
    congr 1
    omega
  have hlast : (10 : ℚ) ^ topExponent num den =
      10 ^ digits * 10 ^ (topExponent num den - digits) := by
    rw [← zpow_natCast, ← zpow_add₀ (by norm_num)]
    congr 1
    omega
  rw [hfirst] at htop
  rw [hlast] at htop'
  refine ⟨?_, ?_, hbelow, ?_⟩
  · have := lt_of_mul_lt_mul_right (htop.trans_lt hbelow') hunit.le
    exact Nat.lt_succ_iff.mp (by exact_mod_cast this)
  · have := lt_of_mul_lt_mul_right (hbelow.trans_lt htop') hunit.le
    exact_mod_cast this
  · rw [add_mul, one_mul] at hbelow'
    exact hbelow'

/-! ### The shortest decimal -/

variable {readsBack : Decimal → Bool} {tie : DecimalTie} {num den digits : Nat} {d : Decimal}

/-- Two neighbours are tried, and the lower is one of them. -/
theorem exists_onGrid?_eq (readsBack : Decimal → Bool) (tie : DecimalTie) (num den digits : Nat) :
    ∃ first second, (first = low num den digits ∨ second = low num den digits) ∧
      onGrid? readsBack tie num den digits =
        if readsBack first then some first
        else if readsBack second then some second
        else none := by
  -- which neighbour is tried first does not matter
  have hlow (preferHigh : Bool) (high : Decimal) :
      (if preferHigh then (high, low num den digits) else (low num den digits, high)).1 =
          low num den digits ∨
        (if preferHigh then (high, low num den digits) else (low num den digits, high)).2 =
          low num den digits := by
    cases preferHigh with
    | false => exact .inl rfl
    | true => exact .inr rfl
  exact ⟨_, _, hlow _ _, rfl⟩

/-- What is found on a grid reads back. -/
theorem readsBack_of_onGrid? (h : onGrid? readsBack tie num den digits = some d) :
    readsBack d = true := by
  obtain ⟨first, second, -, heq⟩ := exists_onGrid?_eq readsBack tie num den digits
  rw [heq] at h
  split at h
  · next hread => exact Option.some.inj h ▸ hread
  · split at h
    · next hread => exact Option.some.inj h ▸ hread
    · cases h

/-- Something is found on a grid whose lower neighbour reads back. -/
theorem isSome_onGrid? (h : readsBack (low num den digits) = true) :
    (onGrid? readsBack tie num den digits).isSome = true := by
  obtain ⟨first, second, hlow, heq⟩ := exists_onGrid?_eq readsBack tie num den digits
  rw [heq]
  rcases hlow with rfl | rfl
  · rw [if_pos h]
    rfl
  · rw [if_pos h]
    split <;> rfl

theorem readsBack_of_firstGrid? {fuel : Nat}
    (h : firstGrid? readsBack tie num den digits fuel = some d) : readsBack d = true := by
  induction fuel generalizing digits with
  | zero => cases h
  | succ fuel ih =>
    rcases Option.or_eq_some_iff.mp h with h | ⟨-, h⟩
    · exact readsBack_of_onGrid? h
    · exact ih h

theorem isSome_firstGrid? {fuel first : Nat} (hfirst : first ≤ digits)
    (hlast : digits < first + fuel) (h : readsBack (low num den digits) = true) :
    (firstGrid? readsBack tie num den first fuel).isSome = true := by
  induction fuel generalizing first with
  | zero => omega
  | succ fuel ih =>
    rw [firstGrid?, Option.isSome_or, Bool.or_eq_true]
    rcases Nat.eq_or_lt_of_le hfirst with rfl | hlt
    · exact .inl (isSome_onGrid? h)
    · exact .inr (ih hlt (by omega))

/-- **The shortest decimal is one that reads back**, if on some grid the lower neighbour does. -/
theorem exists_shortest_eq (hfirst : 1 ≤ digits) (hlast : digits ≤ 17)
    (h : readsBack (low num den digits) = true) (tie : DecimalTie) (exact : Decimal) :
    ∃ d, readsBack d = true ∧ shortest readsBack tie num den exact = d.normalize := by
  have hfound : (firstGrid? readsBack tie num den 1 17).isSome = true :=
    isSome_firstGrid? hfirst (by omega) h
  obtain ⟨d, hd⟩ := Option.isSome_iff_exists.mp hfound
  exact ⟨d, readsBack_of_firstGrid? hd, by rw [shortest, hd, Option.getD_some]⟩

end Decimal

end FormulaChain
