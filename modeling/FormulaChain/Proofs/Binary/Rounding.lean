import FormulaChain.Binary.Format
import Mathlib.Data.Nat.Log
import Mathlib.Tactic.Linarith
import Mathlib.Tactic.Ring

/-!
# Rounding to a binary format

A rank is a shift and a significand: its magnitude is the significand times two to the power of the
shift (`units_binade`), where the significand has all bits of the format unless the shift is zero.
Rounding picks the shift by the leading bit of a ratio and the significand by the nearest whole
number. So a ratio far from the ends of the format is changed by less than the weight of the last
bit (`nearestRank_error`), and a ratio that differs from a magnitude by less than an eighth of that
weight is rounded to the magnitude (`nearestRank_eq`).
-/

namespace FormulaChain

theorem twoTo_eq (n : Nat) : twoTo n = 2 ^ n := rfl

theorem twoTo_pos (n : Nat) : 0 < twoTo n := Nat.two_pow_pos n

/-! ### Whole numbers -/

/-- The quotient is off by at most a half. -/
theorem roundHalfEven_error (num : Nat) {den : Nat} (hden : 0 < den) :
    2 * num ≤ 2 * (roundHalfEven num den * den) + den ∧
      2 * (roundHalfEven num den * den) ≤ 2 * num + den := by
  have hsplit : num / den * den + num % den = num := by
    rw [Nat.mul_comm]; exact Nat.div_add_mod num den
  have hmod : num % den < den := Nat.mod_lt num hden
  unfold roundHalfEven
  split
  · omega
  · split
    · rw [Nat.add_mul, Nat.one_mul]
      omega
    · rcases Nat.mod_two_eq_zero_or_one (num / den) with h | h <;> rw [h]
      · rw [Nat.add_zero]
        omega
      · rw [Nat.add_mul, Nat.one_mul]
        omega

/-- A ratio less than a half away from a whole number is rounded to it. -/
theorem roundHalfEven_eq {num den m : Nat} (hlow : 2 * (m * den) < 2 * num + den)
    (hhigh : 2 * num < 2 * (m * den) + den) : roundHalfEven num den = m := by
  have hden : 0 < den := by omega
  obtain ⟨h, h'⟩ := roundHalfEven_error num hden
  generalize roundHalfEven num den = r at h h'
  by_contra hne
  rcases Nat.lt_or_gt_of_ne hne with hlt | hlt
  · have hle : (r + 1) * den ≤ m * den := Nat.mul_le_mul_right den hlt
    rw [Nat.add_mul, Nat.one_mul] at hle
    omega
  · have hle : (m + 1) * den ≤ r * den := Nat.mul_le_mul_right den hlt
    rw [Nat.add_mul, Nat.one_mul] at hle
    omega

/-- A ratio in other terms. -/
theorem roundHalfEven_mul_right (num den : Nat) {k : Nat} (hk : 0 < k) :
    roundHalfEven (num * k) (den * k) = roundHalfEven num den := by
  unfold roundHalfEven
  simp only [Nat.mul_div_mul_right _ _ hk, Nat.mul_mod_mul_right, ← Nat.mul_assoc,
    Nat.mul_lt_mul_right hk]

namespace BinaryFormat

variable {f : BinaryFormat}

/-! ### Ranks -/

theorem units_of_lt {rank : Nat} (h : rank / 2 ^ f.fractionBits = 0) : f.units rank = rank :=
  if_pos h

theorem units_of_binade {rank binade : Nat} (h : rank / 2 ^ f.fractionBits = binade + 1) :
    f.units rank = (2 ^ f.fractionBits + rank % 2 ^ f.fractionBits) * 2 ^ binade := by
  have hne : rank / twoTo f.fractionBits ≠ 0 := by
    rw [twoTo_eq, h]
    exact Nat.succ_ne_zero _
  simp only [units, if_neg hne]
  rw [twoTo_eq, h]
  rfl

/-- The magnitude of a rank that is given as a shift and a significand. -/
theorem units_shift {shift m : Nat} (hlow : shift = 0 ∨ 2 ^ f.fractionBits ≤ m)
    (hhigh : m ≤ 2 ^ (f.fractionBits + 1)) :
    f.units (shift * 2 ^ f.fractionBits + m) = m * 2 ^ shift := by
  have hpos : 0 < 2 ^ f.fractionBits := Nat.two_pow_pos _
  by_cases hsub : m < 2 ^ f.fractionBits
  · obtain rfl : shift = 0 := hlow.resolve_right (Nat.not_le.mpr hsub)
    rw [Nat.zero_mul, Nat.zero_add, pow_zero, Nat.mul_one]
    exact units_of_lt (Nat.div_eq_of_lt hsub)
  · obtain ⟨extra, rfl⟩ := Nat.exists_eq_add_of_le (Nat.not_lt.mp hsub)
    have hextra : extra ≤ 2 ^ f.fractionBits := by
      rw [pow_succ] at hhigh
      omega
    have hrank : shift * 2 ^ f.fractionBits + (2 ^ f.fractionBits + extra) =
        extra + 2 ^ f.fractionBits * (shift + 1) := by ring
    rcases Nat.lt_or_eq_of_le hextra with hlt | rfl
    · have hbinade :
          (extra + 2 ^ f.fractionBits * (shift + 1)) / 2 ^ f.fractionBits = shift + 1 := by
        rw [Nat.add_mul_div_left _ _ hpos, Nat.div_eq_of_lt hlt, Nat.zero_add]
      rw [hrank, units_of_binade hbinade, Nat.add_mul_mod_self_left, Nat.mod_eq_of_lt hlt]
    · generalize hone : 2 ^ f.fractionBits = one at *
      have hbinade : (one + one * (shift + 1)) / one = shift + 1 + 1 := by
        rw [Nat.add_mul_div_left _ _ hpos, Nat.div_self hpos, Nat.add_comm]
      rw [← hone] at hbinade
      rw [hrank, ← hone, units_of_binade hbinade, Nat.add_mul_mod_self_left, Nat.mod_self]
      ring

/-- Every rank is a shift and a significand. -/
theorem exists_shift (f : BinaryFormat) (rank : Nat) :
    ∃ shift m, rank = shift * 2 ^ f.fractionBits + m ∧ f.units rank = m * 2 ^ shift ∧
      (shift = 0 ∨ 2 ^ f.fractionBits ≤ m) ∧ m < 2 ^ (f.fractionBits + 1) := by
  have hmod : rank % 2 ^ f.fractionBits < 2 ^ f.fractionBits :=
    Nat.mod_lt _ (Nat.two_pow_pos _)
  have hdouble : 2 ^ (f.fractionBits + 1) = 2 ^ f.fractionBits + 2 ^ f.fractionBits := by
    rw [pow_succ]
    omega
  have hsplit : rank / 2 ^ f.fractionBits * 2 ^ f.fractionBits + rank % 2 ^ f.fractionBits =
      rank := by
    rw [Nat.mul_comm]
    exact Nat.div_add_mod _ _
  cases hbinade : rank / 2 ^ f.fractionBits with
  | zero =>
    rw [hbinade] at hsplit
    exact ⟨0, rank, by omega, by rw [units_of_lt hbinade, pow_zero, Nat.mul_one], .inl rfl,
      by omega⟩
  | succ shift =>
    rw [hbinade, Nat.add_mul] at hsplit
    exact ⟨shift, 2 ^ f.fractionBits + rank % 2 ^ f.fractionBits, by omega,
      units_of_binade hbinade, .inr (Nat.le_add_right _ _), by omega⟩

/-! ### Rounding -/

/-- What is rounded with the shift given, unless it is too great. -/
theorem nearestRank_of_shift {num den shift m : Nat}
    (hshift : (num / den).log2 - f.fractionBits = shift)
    (hm : roundHalfEven num (den * 2 ^ shift) = m)
    (hfinite : shift * 2 ^ f.fractionBits + m ≤ f.infinityRank) :
    f.nearestRank num den = shift * 2 ^ f.fractionBits + m := by
  simp only [nearestRank, hshift, twoTo_eq, hm]
  exact Nat.min_eq_right hfinite

theorem nearestRank_mul_right (num den : Nat) {k : Nat} (hk : 0 < k) :
    f.nearestRank (num * k) (den * k) = f.nearestRank num den := by
  have hshift (shift : Nat) : den * k * twoTo shift = den * twoTo shift * k :=
    Nat.mul_right_comm _ _ _
  simp only [nearestRank, Nat.mul_div_mul_right _ _ hk, hshift, roundHalfEven_mul_right _ _ hk]

/-- **Equal ratios are rounded alike.** -/
theorem nearestRatio_congr {num den num' den' : Nat} (hden : 0 < den) (hden' : 0 < den')
    (h : num * den' = num' * den) : f.nearestRatio num den = f.nearestRatio num' den' := by
  have hterms (num den : Nat) {k : Nat} (hk : 0 < k) :
      f.nearestRatio (num * k) (den * k) = f.nearestRatio num den := by
    rw [nearestRatio, nearestRatio, Nat.mul_right_comm, nearestRank_mul_right _ _ hk]
  calc f.nearestRatio num den = f.nearestRatio (num * den') (den * den') :=
        (hterms num den hden').symm
    _ = f.nearestRatio (num' * den) (den' * den) := by rw [h, Nat.mul_comm den]
    _ = f.nearestRatio num' den' := hterms num' den' hden

/-- The leading bit of a ratio. -/
theorem log2_div_eq {num den k : Nat} (hlow : 2 ^ k * den ≤ num) (hhigh : num < 2 ^ (k + 1) * den) :
    (num / den).log2 = k := by
  have hden : 0 < den := by
    rcases Nat.eq_zero_or_pos den with rfl | h
    · simp at hhigh
    · exact h
  have hge : 2 ^ k ≤ num / den := (Nat.le_div_iff_mul_le hden).mpr hlow
  have hne : num / den ≠ 0 := by
    have := Nat.two_pow_pos k
    omega
  exact (Nat.log2_eq_iff hne).mpr ⟨hge, (Nat.div_lt_iff_lt_mul hden).mpr hhigh⟩

/-- The significand of a ratio has all bits of the format, or is the next power of two. -/
theorem roundHalfEven_bounds {a num den : Nat} (hlow : a * den ≤ num) (hhigh : num < 2 * a * den) :
    a ≤ roundHalfEven num den ∧ roundHalfEven num den ≤ 2 * a := by
  have hden : 0 < den := Nat.pos_of_ne_zero fun h => by simp [h] at hhigh
  obtain ⟨h, h'⟩ := roundHalfEven_error num hden
  generalize roundHalfEven num den = m at h h'
  constructor
  · by_contra hlt
    have hle := Nat.mul_le_mul_right den (Nat.succ_le_of_lt (Nat.not_le.mp hlt))
    rw [Nat.succ_mul] at hle
    omega
  · by_contra hlt
    have hle := Nat.mul_le_mul_right den (Nat.succ_le_of_lt (Nat.not_le.mp hlt))
    rw [Nat.succ_mul] at hle
    omega

/-- The magnitude of a rank far from the ends of the format is off by less than the weight of the
last bit. -/
theorem nearestRank_error {num den : Nat} (hlow : 2 ^ f.fractionBits * den ≤ num)
    (hhigh : num < 2 ^ (f.fractionBits + (2 ^ f.exponentBits - 3)) * den) :
    f.nearestRank num den < f.infinityRank ∧
      2 ^ (f.fractionBits + 1) * num ≤
        2 ^ (f.fractionBits + 1) * (f.units (f.nearestRank num den) * den) + num ∧
      2 ^ (f.fractionBits + 1) * (f.units (f.nearestRank num den) * den) ≤
        2 ^ (f.fractionBits + 1) * num + num := by
  have hden : 0 < den := Nat.pos_of_ne_zero fun h => by simp [h] at hhigh
  -- the shift is the place of the leading bit above the significand
  have hquot : 2 ^ f.fractionBits ≤ num / den := (Nat.le_div_iff_mul_le hden).mpr hlow
  have hne : num / den ≠ 0 := (Nat.lt_of_lt_of_le (Nat.two_pow_pos _) hquot).ne'
  obtain ⟨shift, hlog⟩ := Nat.exists_eq_add_of_le ((Nat.le_log2 hne).mpr hquot)
  obtain ⟨hge, hlt⟩ := (Nat.log2_eq_iff hne).mp hlog
  have hge' : 2 ^ f.fractionBits * (den * 2 ^ shift) ≤ num := by
    have := (Nat.le_div_iff_mul_le hden).mp hge
    rw [pow_add] at this
    linarith
  have hlt' : num < 2 * 2 ^ f.fractionBits * (den * 2 ^ shift) := by
    have := (Nat.div_lt_iff_lt_mul hden).mp hlt
    rw [pow_succ, pow_add] at this
    linarith
  obtain ⟨hm, hm'⟩ := roundHalfEven_bounds hge' hlt'
  obtain ⟨herr, herr'⟩ :=
    roundHalfEven_error num (Nat.mul_pos hden (Nat.two_pow_pos shift))
  -- the rank stays below that of infinity
  have hshift : shift + 3 < 2 ^ f.exponentBits := by
    have hpow : 2 ^ (f.fractionBits + shift) < 2 ^ (f.fractionBits + (2 ^ f.exponentBits - 3)) := by
      refine Nat.lt_of_mul_lt_mul_right (a := den) (Nat.lt_of_le_of_lt ?_ hhigh)
      rw [pow_add]
      linarith
    have := (Nat.pow_lt_pow_iff_right Nat.one_lt_two).mp hpow
    omega
  have hfinite : shift * 2 ^ f.fractionBits + roundHalfEven num (den * 2 ^ shift) <
      f.infinityRank := by
    have hrank : (shift + 3) * 2 ^ f.fractionBits ≤ f.infinityRank :=
      Nat.mul_le_mul_right _ (Nat.le_sub_one_of_lt hshift)
    have hpos : 0 < 2 ^ f.fractionBits := Nat.two_pow_pos _
    linarith
  have hrank : f.nearestRank num den = _ :=
    nearestRank_of_shift (by rw [hlog]; omega) rfl hfinite.le
  have hunits : f.units (shift * 2 ^ f.fractionBits + _) = _ :=
    units_shift (.inr hm) (by rw [pow_succ]; linarith)
  rw [hrank, hunits, pow_succ]
  generalize roundHalfEven num (den * 2 ^ shift) = m at herr herr' hfinite
  have herr := Nat.mul_le_mul_left (2 ^ f.fractionBits) herr
  have herr' := Nat.mul_le_mul_left (2 ^ f.fractionBits) herr'
  exact ⟨hfinite, by linarith, by linarith⟩

/-- A ratio `num / d` that is off from a magnitude `m` below `2 * a` by one in `8 * a` is off by
less than a quarter. -/
theorem close_of_error {a d md num : Nat} (ha : 0 < a) (hd : 0 < d)
    (hlow : 8 * a * md ≤ 8 * a * num + num) (hhigh : 8 * a * num ≤ 8 * a * md + md)
    (hmd : md + d ≤ 2 * a * d) : 4 * md < 4 * num + d ∧ 4 * num < 4 * md + d := by
  constructor
  · by_contra h
    have h := Nat.mul_le_mul_left (2 * a) (Nat.not_lt.mp h)
    have had : d ≤ a * d := Nat.le_mul_of_pos_left d ha
    nlinarith
  · by_contra h
    have h := Nat.mul_le_mul_left (2 * a) (Nat.not_lt.mp h)
    nlinarith

/-- A ratio with few bits needs no shift. -/
theorem shift_eq_zero {q : Nat} (h : q < 2 ^ (f.fractionBits + 1)) :
    q.log2 - f.fractionBits = 0 := by
  rcases Nat.eq_zero_or_pos q with rfl | hpos
  · rw [Nat.log2_zero, Nat.zero_sub]
  · have hlog := (Nat.log2_lt hpos.ne').mpr h
    omega

/-- A ratio just below a power of two that is rounded up to it, although its leading bit is one
less. -/
theorem nearestRank_below_power {less num den : Nat}
    (hlow : 2 ^ (f.fractionBits + less) * den ≤ num)
    (hhigh : num < 2 ^ (f.fractionBits + (less + 1)) * den)
    (hround : roundHalfEven num (den * 2 ^ less) = 2 * 2 ^ f.fractionBits)
    (hfinite : (less + 1) * 2 ^ f.fractionBits + 2 ^ f.fractionBits < f.infinityRank) :
    f.nearestRank num den = (less + 1) * 2 ^ f.fractionBits + 2 ^ f.fractionBits := by
  have hrank : (less + 1) * 2 ^ f.fractionBits + 2 ^ f.fractionBits =
      less * 2 ^ f.fractionBits + 2 * 2 ^ f.fractionBits := by ring
  rw [hrank] at hfinite ⊢
  refine nearestRank_of_shift ?_ hround hfinite.le
  rw [log2_div_eq hlow (by rw [Nat.add_assoc]; exact hhigh), Nat.add_sub_cancel_left]

/-- **A ratio close to a magnitude is rounded to it.** -/
theorem nearestRank_eq {rank num den : Nat} (hrank : rank < f.infinityRank) (hden : 0 < den)
    (hlow : 2 ^ (f.fractionBits + 3) * (f.units rank * den) ≤
      2 ^ (f.fractionBits + 3) * num + num)
    (hhigh : 2 ^ (f.fractionBits + 3) * num ≤
      2 ^ (f.fractionBits + 3) * (f.units rank * den) + f.units rank * den) :
    f.nearestRank num den = rank := by
  obtain ⟨shift, m, rfl, hunits, hfull, hm⟩ := f.exists_shift rank
  have ha : 0 < 2 ^ f.fractionBits := Nat.two_pow_pos _
  have hd : 0 < den * 2 ^ shift := Nat.mul_pos hden (Nat.two_pow_pos shift)
  have hmd : m * (den * 2 ^ shift) + den * 2 ^ shift ≤
      2 * 2 ^ f.fractionBits * (den * 2 ^ shift) := by
    rw [← Nat.succ_mul, Nat.mul_comm 2, ← pow_succ]
    exact Nat.mul_le_mul_right _ hm
  have height : 2 ^ (f.fractionBits + 3) = 8 * 2 ^ f.fractionBits := by ring
  have hvalue : f.units (shift * 2 ^ f.fractionBits + m) * den = m * (den * 2 ^ shift) := by
    rw [hunits]
    ring
  rw [height, hvalue] at hlow hhigh
  obtain ⟨hbelow, habove⟩ := close_of_error ha hd hlow hhigh hmd
  have hround : roundHalfEven num (den * 2 ^ shift) = m := roundHalfEven_eq (by omega) (by omega)
  rcases Nat.eq_zero_or_pos shift with rfl | hpos
  · -- without a shift, the leading bit may stand anywhere
    refine nearestRank_of_shift ?_ hround hrank.le
    rw [pow_zero, Nat.mul_one] at habove hmd hd
    have hquot : num / den < 2 ^ (f.fractionBits + 1) := by
      rw [Nat.div_lt_iff_lt_mul hden, pow_succ]
      linarith
    exact shift_eq_zero hquot
  · replace hfull := hfull.resolve_left hpos.ne'
    by_cases hlead : 2 ^ (f.fractionBits + shift) * den ≤ num
    · -- the leading bit is that of the magnitude
      refine nearestRank_of_shift ?_ hround hrank.le
      rw [log2_div_eq hlead, Nat.add_sub_cancel_left]
      rw [pow_succ, pow_add]
      linarith
    · -- the ratio is just below a power of two, which is the magnitude
      rw [Nat.not_le] at hlead
      obtain ⟨less, rfl⟩ : ∃ n, shift = n + 1 := ⟨shift - 1, by omega⟩
      have hhalf : den * 2 ^ (less + 1) = 2 * (den * 2 ^ less) := by ring
      have hless : num < 2 ^ f.fractionBits * (den * 2 ^ (less + 1)) := by
        rw [pow_add] at hlead
        linarith
      have hleast : m = 2 ^ f.fractionBits := by
        refine Nat.le_antisymm (Nat.le_of_lt_succ ?_) hfull
        refine Nat.lt_of_mul_lt_mul_right (a := den * 2 ^ (less + 1)) ?_
        rw [Nat.succ_mul]
        linarith
      have hround' : roundHalfEven num (den * 2 ^ less) = 2 * 2 ^ f.fractionBits := by
        rw [hleast, hhalf] at hbelow habove
        exact roundHalfEven_eq (by linarith) (by linarith)
      have hnear : 2 ^ (f.fractionBits + less) * den ≤ num := by
        rw [hleast, hhalf] at hbelow
        rw [pow_add]
        have := Nat.mul_le_mul_right (den * 2 ^ less) (Nat.succ_le_of_lt ha)
        linarith
      rw [hleast] at hrank ⊢
      exact nearestRank_below_power hnear hlead hround' hrank

end BinaryFormat

end FormulaChain
