import FormulaChain.Proofs.Decimal.Rounding
import FormulaChain.Proofs.Json.Numeral

/-!
# Single-precision numbers are read back

What is written for a finite number is read back as that number (`readSingle?_numeral?`). A reader
goes through the 64-bit format: it rounds the digits, a power of ten, and their product or quotient,
three steps in all (`near_scaleRank?`). Ten digits come within one step of a 32-bit number, so that
they are read back, and the shortest digits that are read back exist.
-/

namespace FormulaChain.Json

open Number BinaryFormat

/-! ### The 64-bit format -/

/-- A number that few steps separate from a moderate one is far from the ends of the format. -/
theorem inRange_of_near {n : ℕ} {x y : ℚ} (h : Near n x y) (hn : n ≤ 4) (hlow : 1 / 2 ^ 460 ≤ y)
    (hhigh : y ≤ 2 ^ 460) : binary64.InRange x := by
  have hunit : binary64.unitExponent = 1074 := by decide
  have hfraction : binary64.fractionBits = 52 := rfl
  have hexponent : binary64.fractionBits + (2 ^ binary64.exponentBits - 3) = 2097 := by decide
  have hpos : (0 : ℚ) < 1 / 2 ^ 460 := by positivity
  have hx : 0 < x := h.pos (hpos.trans_le hlow)
  have htwo : step ^ n ≤ 2 :=
    (pow_le_pow_right₀ one_le_step hn).trans (by norm_num [step])
  constructor
  · rw [hunit, hfraction, div_le_iff₀ (by positivity)]
    have hge : 1 / 2 ^ 460 ≤ x * 2 := hlow.trans (h.ge.trans (mul_le_mul_of_nonneg_left htwo hx.le))
    rw [div_le_iff₀ (by positivity)] at hge
    have hsplit : (2 : ℚ) ^ 1074 = 2 ^ 460 * 2 * 2 ^ 613 := by
      rw [← pow_succ, ← pow_add]
    calc (2 : ℚ) ^ 52 ≤ 2 ^ 613 := pow_le_pow_right₀ one_le_two (by decide)
      _ ≤ x * 2 * 2 ^ 460 * 2 ^ 613 := le_mul_of_one_le_left (by positivity) hge
      _ = x * 2 ^ 1074 := by
        rw [hsplit, mul_assoc x, mul_comm (2 : ℚ), mul_assoc x]
  · rw [hunit, hexponent, lt_div_iff₀ (by positivity)]
    have hle : x ≤ 2 ^ 460 * 2 :=
      h.le.trans (mul_le_mul hhigh htwo (pow_pos step_pos n).le (by positivity))
    calc x * 2 ^ 1074 ≤ 2 ^ 460 * 2 * 2 ^ 1074 := mul_le_mul_of_nonneg_right hle (by positivity)
      _ = 2 ^ 1535 := by rw [← pow_succ, ← pow_add]
      _ < 2 ^ 2097 := pow_lt_pow_right₀ one_lt_two (by decide)

/-- A moderate power of ten. -/
theorem pow_ten_le {k : ℕ} (hk : k ≤ 115) : (10 : ℚ) ^ k ≤ 2 ^ 460 := by
  calc (10 : ℚ) ^ k ≤ 10 ^ 115 := pow_le_pow_right₀ (by norm_num) hk
    _ ≤ 16 ^ 115 := pow_le_pow_left₀ (by norm_num) (by norm_num) 115
    _ = 2 ^ 460 := by rw [show (16 : ℚ) = 2 ^ 4 by norm_num, ← pow_mul]

theorem one_div_le_one : (1 : ℚ) / 2 ^ 460 ≤ 1 :=
  div_le_one_of_le₀ (one_le_pow₀ one_le_two) (by positivity)

/-- A whole number of a moderate size is one rounding away. -/
theorem near_whole {n : ℕ} (hpos : 0 < n) (hle : (n : ℚ) ≤ 2 ^ 460) :
    Near 1 (binary64.value (binary64.nearestRatio n 1)) n := by
  have hself : Near 0 (n : ℚ) n := ⟨by simp, by simp⟩
  have hone : (1 : ℚ) ≤ n := by exact_mod_cast hpos
  have hrange := inRange_of_near hself (by decide) (one_div_le_one.trans hone) hle
  have hratio : (n : ℚ) / (1 : ℕ) = n := by rw [Nat.cast_one, div_one]
  rw [← hratio] at hrange ⊢
  exact (near_nearestRatio (by decide) one_pos hrange).2

theorem near_powerRank {k : ℕ} (hk : k ≤ 100) :
    Near 1 (binary64.value (powerRank k)) (10 ^ k) := by
  have hcast : ((10 ^ k : ℕ) : ℚ) = 10 ^ k := by push_cast; rfl
  have h := near_whole (n := 10 ^ k) (Nat.pow_pos (by decide)) (by
    rw [hcast]
    exact pow_ten_le (by omega))
  rw [hcast] at h
  exact h

section Scaling

variable {significand k : ℕ} (hpos : 0 < significand) (hlt : significand < 10 ^ 15) (hk : k ≤ 100)

include hpos hlt

theorem near_significand :
    Near 1 (binary64.value (binary64.nearestRatio significand 1)) significand := by
  have hsmall : (significand : ℚ) ≤ 10 ^ 15 := by exact_mod_cast hlt.le
  exact near_whole hpos (hsmall.trans (pow_ten_le (by decide)))

include hk

/-- Digits divided by a power of ten. -/
theorem near_scaleDown :
    Near 3 (binary64.value (scaleDown (binary64.nearestRatio significand 1) k))
      (significand / 10 ^ k) := by
  have hone : (1 : ℚ) ≤ significand := by exact_mod_cast hpos
  have hsmall : (significand : ℚ) ≤ 10 ^ 15 := by exact_mod_cast hlt.le
  have hten : (0 : ℚ) < 10 ^ k := by positivity
  have hdigits := near_significand hpos hlt
  have hdigits' := hdigits.pos (zero_lt_one.trans_le hone)
  have hpower := near_powerRank hk
  have hpower' := hpower.pos hten
  have hquotient := hdigits.div hpower hdigits'.le hpower' (by positivity) hten
  have hlow : 1 / 2 ^ 460 ≤ (significand : ℚ) / 10 ^ k := by
    rw [div_le_div_iff₀ (by positivity) hten]
    exact mul_le_mul hone (pow_ten_le (by omega)) hten.le (by positivity)
  have hhigh : (significand : ℚ) / 10 ^ k ≤ 2 ^ 460 :=
    (div_le_self (by positivity) (one_le_pow₀ (by norm_num))).trans
      (hsmall.trans (pow_ten_le (by decide)))
  obtain ⟨-, hnear⟩ := near_divide (by decide) hpower'
    (inRange_of_near hquotient (by decide) hlow hhigh)
  have hgreatest : k ≤ greatestPower := hk.trans (by decide)
  rw [scaleDown, if_pos hgreatest]
  exact hnear.trans hquotient

/-- Digits multiplied by a power of ten. -/
theorem near_scaleUp? :
    ∃ rank, scaleUp? (binary64.nearestRatio significand 1) k = some rank ∧
      Near 3 (binary64.value rank) (significand * 10 ^ k) := by
  have hone : (1 : ℚ) ≤ significand := by exact_mod_cast hpos
  have hsmall : (significand : ℚ) ≤ 10 ^ 15 := by exact_mod_cast hlt.le
  have hten : (0 : ℚ) < 10 ^ k := by positivity
  have hdigits := near_significand hpos hlt
  have hdigits' := hdigits.pos (zero_lt_one.trans_le hone)
  have hpower := near_powerRank hk
  have hproduct := hdigits.mul hpower hdigits'.le (hpower.pos hten).le (by positivity) hten.le
  have hlow : 1 / 2 ^ 460 ≤ (significand : ℚ) * 10 ^ k :=
    one_div_le_one.trans (one_le_mul_of_one_le_of_one_le hone (one_le_pow₀ (by norm_num)))
  have hhigh : (significand : ℚ) * 10 ^ k ≤ 2 ^ 460 := by
    calc (significand : ℚ) * 10 ^ k ≤ 10 ^ 15 * 10 ^ k := mul_le_mul_of_nonneg_right hsmall hten.le
      _ = 10 ^ (15 + k) := (pow_add ..).symm
      _ ≤ 2 ^ 460 := pow_ten_le (by omega)
  obtain ⟨hfinite, hnear⟩ := near_multiply (by decide)
    (inRange_of_near hproduct (by decide) hlow hhigh)
  have hgreatest : k ≤ greatestPower := hk.trans (by decide)
  exact ⟨_, by simp only [scaleUp?, if_pos hgreatest, if_pos hfinite], hnear.trans hproduct⟩

end Scaling

/-- **Digits scaled by a power of ten are three roundings away.** -/
theorem near_scaleRank? {significand : ℕ} {power : ℤ} (hpos : 0 < significand)
    (hlt : significand < 10 ^ 15) (hlow : -100 ≤ power) (hhigh : power ≤ 100) :
    ∃ rank, scaleRank? significand power = some rank ∧
      Near 3 (binary64.value rank) (significand * 10 ^ power) := by
  rcases lt_or_ge power 0 with hsign | hsign
  · obtain ⟨k, hk⟩ := Int.eq_ofNat_of_zero_le (a := -power) (by omega)
    obtain rfl : power = -k := by omega
    have hnear := near_scaleDown hpos hlt (k := k) (by omega)
    rw [div_eq_mul_inv, ← zpow_natCast, ← zpow_neg] at hnear
    refine ⟨_, ?_, hnear⟩
    rw [scaleRank?, if_neg (Int.not_le.mpr hsign), Int.natAbs_neg, Int.natAbs_natCast]
  · obtain ⟨k, rfl⟩ := Int.eq_ofNat_of_zero_le hsign
    obtain ⟨rank, hrank, hnear⟩ := near_scaleUp? hpos hlt (k := k) (by omega)
    rw [← zpow_natCast] at hnear
    refine ⟨rank, ?_, hnear⟩
    rw [scaleRank?, if_pos hsign, Int.toNat_natCast, hrank]

/-! ### Reading digits -/

/-- A number of the 64-bit format is narrowed to the single-precision number it is near to. -/
theorem narrow_eq_of_near {r : Fin 0x7F800000} {rank : ℕ}
    (h : Near 4 (binary64.value rank) (binary32.value r)) :
    narrow false rank = .finite false r := by
  have hfinite : (r : ℕ) < binary32.infinityRank := r.isLt
  rw [← units_div_twoTo] at h
  have hrank := nearestRatio_eq_of_near (by decide) hfinite (twoTo_pos _) h
  rw [narrow, Single.ofRatio, hrank, Single.ofRank, dif_pos r.isLt]

/-- A sign does not change the magnitude. -/
theorem ofRank_true {r : Fin 0x7F800000} {rank : ℕ}
    (h : Single.ofRank false rank = .finite false r) :
    Single.ofRank true rank = .finite true r := by
  unfold Single.ofRank at *
  split at h
  · next hlt =>
    rw [dif_pos hlt]
    cases h
    rfl
  · cases h

theorem narrow_true {r : Fin 0x7F800000} {rank : ℕ} (h : narrow false rank = .finite false r) :
    narrow true rank = .finite true r := by
  rw [narrow, Single.ofRatio] at h ⊢
  exact ofRank_true h

/-- **Digits one step away from a number are read as that number**. -/
theorem readSingle?_of_near {r : Fin 0x7F800000} {d : Decimal} (hr : 0 < (r : ℕ))
    (hpos : 0 < d.significand) (hlt : d.significand < 10 ^ 15)
    (h : Near 1 d.value (binary32.value r)) :
    readSingle? (numeralStyle.layout d) = some (.finite false r) := by
  obtain ⟨hleast, hgreatest⟩ := binary32_value_bounds hr r.isLt
  obtain ⟨hlow, hhigh⟩ := Decimal.exponent_bounds hpos hlt h hleast hgreatest
  have hnarrow {rank : ℕ} (hrank : (written d).rank? = some rank)
      (hnear : Near 3 (binary64.value rank) d.value) :
      readSingle? (numeralStyle.layout d) = some (.finite false r) := by
    have hfour : Near 4 (binary64.value rank) (binary32.value r) := hnear.trans (n := 1) h
    rw [readSingle?_layout, hrank, Option.map_some, narrow_eq_of_near hfour]
  rcases rank?_written hpos hlt (by omega) (by omega) with hread | ⟨e, he, hsmall, hread⟩
  · obtain ⟨rank, hrank, hnear⟩ := near_scaleRank? hpos hlt hlow hhigh
    exact hnarrow (hread.trans hrank) hnear
  · -- a whole number is read with one more digit, a tenth of which it is
    have hscaled : 0 < d.significand * 10 ^ (e + 1) := Nat.mul_pos hpos (Nat.pow_pos (by decide))
    have htenth : -100 ≤ (-1 : ℤ) := by decide
    obtain ⟨rank, hrank, hnear⟩ := near_scaleRank? hscaled hsmall htenth (by decide)
    have hvalue : ((d.significand * 10 ^ (e + 1) : ℕ) : ℚ) * 10 ^ (-1 : ℤ) = d.value := by
      rw [Decimal.value, he, zpow_natCast]
      push_cast
      rw [pow_succ, zpow_neg_one]
      field_simp
    rw [hvalue] at hnear
    exact hnarrow (hread.trans hrank) hnear

/-! ### Writing digits -/

/-- Whether a decimal without its trailing zeros is read as a magnitude. -/
def readsBack (r : Fin 0x7F800000) (d : Decimal) : Bool :=
  readSingle? (numeralStyle.layout d.normalize) = some (.finite false r)

/-- Ten digits are enough. -/
theorem readsBack_low {r : Fin 0x7F800000} (hr : 0 < (r : ℕ)) :
    readsBack r (Decimal.low (binary32.units r) (twoTo binary32.unitExponent) 10) = true := by
  obtain ⟨hleast, -⟩ := binary32_value_bounds hr r.isLt
  obtain ⟨-, hdigits, hnear⟩ := Decimal.low_near hr r.isLt
  obtain ⟨hpos, hle, hnear⟩ :=
    Decimal.near_normalize (lt_of_lt_of_le (by positivity) hleast) hnear
  have hfew : (10 : ℕ) ^ 10 ≤ 10 ^ 15 := by decide
  exact decide_eq_true
    (readSingle?_of_near hr hpos ((hle.trans_lt hdigits).trans_le hfew) hnear)

/-- **The text of a magnitude** is that of a decimal which is read as the magnitude. -/
theorem exists_magnitudeText_eq (r : Fin 0x7F800000) :
    ∃ d, magnitudeText r = numeralStyle.layout d ∧
      readSingle? (numeralStyle.layout d) = some (.finite false r) := by
  rcases Nat.eq_zero_or_pos r with hzero | hr
  · obtain rfl : r = ⟨0, by decide⟩ := Fin.ext hzero
    exact ⟨⟨0, 0⟩, rfl, by decide +kernel⟩
  · obtain ⟨d, hread, hshortest⟩ :=
      Decimal.exists_shortestDecimal_eq hr (readsBack_low hr) numeralStyle.tie
    exact ⟨d.normalize, congrArg numeralStyle.layout hshortest, of_decide_eq_true hread⟩

/-- **A finite number is read from its text**, which is the text of a number. -/
theorem readSingle?_numeral? {s : Single} {text : List Char} (h : numeral? s = some text) :
    readSingle? text = some s ∧ (read? text).isSome = true ∧
      ∀ c ∈ text, isNumeric c = true := by
  cases s with
  | nan negative => cases h
  | infinite negative => cases h
  | finite negative r =>
    obtain rfl := Option.some.inj h
    obtain ⟨d, htext, hread⟩ := exists_magnitudeText_eq r
    have hchars : ∀ c ∈ numeralStyle.layout d, isNumeric c = true := by
      rw [← chars_written]
      exact isNumeric_of_mem_chars (proper_written d)
    rw [htext]
    cases negative with
    | false =>
      exact ⟨hread, by rw [if_neg Bool.false_ne_true, read?_layout]; rfl, hchars⟩
    | true =>
      rw [if_pos rfl]
      refine ⟨?_, by rw [read?_neg_layout]; rfl, List.forall_mem_cons.mpr ⟨rfl, hchars⟩⟩
      rw [readSingle?_layout, Option.map_eq_some_iff] at hread
      obtain ⟨rank, hrank, hnarrow⟩ := hread
      rw [readSingle?_neg_layout, hrank, Option.map_some, narrow_true hnarrow]

end FormulaChain.Json
