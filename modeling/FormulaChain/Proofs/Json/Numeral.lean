import FormulaChain.Proofs.Json.Number
import Mathlib.Tactic.Linarith
import Mathlib.Tactic.SplitIfs

/-!
# How decimals are written

The text of a decimal is the text of a number (`chars_written`) that always has a fraction or an
exponent. It keeps the digits of the decimal, so that its reader scales the same digits by the same
power of ten, except that a whole number gains a zero behind the point (`rank?_written`).
-/

namespace FormulaChain.Json

open Number

/-! ### The number that is written -/

/-- Digits with the point after some of them. -/
def positionalNumber (digits : List Char) (point : Int) : Number :=
  if digits.length ≤ point then
    ⟨false, digits ++ List.replicate (point - digits.length).toNat '0', ['0'], none⟩
  else if 0 < point then ⟨false, digits.take point.toNat, digits.drop point.toNat, none⟩
  else ⟨false, ['0'], List.replicate (-point).toNat '0' ++ digits, none⟩

/-- Digits with the point after the first, and a power of ten. -/
def scientificNumber (digits : List Char) (power : Int) : Number :=
  ⟨false, digits.take 1, digits.drop 1, some (power < 0, Nat.toDigits 10 power.natAbs)⟩

/-- The number that a decimal is written as. -/
def written (d : Decimal) : Number :=
  if d.significand = 0 then ⟨false, ['0'], ['0'], none⟩
  else
    let digits := Nat.toDigits 10 d.significand
    let point := d.exponent + digits.length
    if numeralStyle.isPositional (point - 1) then positionalNumber digits point
    else scientificNumber digits (point - 1)

section Digits

variable {digits : List Char}

theorem fractionChars_of_ne_nil (h : digits ≠ []) : fractionChars digits = '.' :: digits := by
  rw [fractionChars]
  exact h

theorem drop_ne_nil_of_lt {point : Int} (hpos : 0 < point) (h : point < digits.length) :
    digits.drop point.toNat ≠ [] := by
  rw [ne_eq, List.drop_eq_nil_iff]
  omega

theorem chars_positionalNumber (hne : digits ≠ []) (point : Int) :
    (positionalNumber digits point).chars = numeralStyle.positional digits point := by
  unfold positionalNumber NumeralStyle.positional
  split_ifs with hwhole hzero hpoint
  · simp [chars, unsignedChars, fractionChars, exponentChars]
  · exact absurd rfl hzero
  · have hdrop := drop_ne_nil_of_lt hpoint (Int.not_le.mp hwhole)
    simp [chars, unsignedChars, fractionChars_of_ne_nil hdrop, exponentChars]
  · have hfraction : List.replicate (-point).toNat '0' ++ digits ≠ [] :=
      fun h => hne (List.append_eq_nil_iff.mp h).2
    simp [chars, unsignedChars, fractionChars_of_ne_nil hfraction, exponentChars]

theorem chars_scientificNumber (hne : digits ≠ []) (power : Int) :
    (scientificNumber digits power).chars = numeralStyle.scientific digits power := by
  have hsign : [if power < 0 then '-' else '+'] =
      (if power < 0 then "-" else if numeralStyle.plusExponent then "+" else "").toList := by
    split <;> rfl
  unfold NumeralStyle.scientific
  dsimp only
  rw [← hsign]
  match digits, hne with
  | [first], _ => simp [chars, unsignedChars, scientificNumber, fractionChars, exponentChars]
  | first :: second :: rest, _ =>
    simp [chars, unsignedChars, scientificNumber, fractionChars, exponentChars]

end Digits

/-- **A decimal is written as a number.** -/
theorem chars_written (d : Decimal) : (written d).chars = numeralStyle.layout d := by
  unfold written NumeralStyle.layout
  dsimp only
  split_ifs with hzero hstyle hpositional
  · rfl
  · exact absurd rfl hstyle
  · exact chars_positionalNumber Nat.toDigits_ne_nil _
  · exact chars_scientificNumber Nat.toDigits_ne_nil _

/-! ### Its grammar -/

theorem isDigit_zero : ∀ c ∈ ['0'], c.isDigit = true := List.forall_mem_singleton.mpr rfl

section Proper

variable {digits : List Char} (hdigits : ∀ c ∈ digits, c.isDigit = true)

include hdigits

theorem proper_positionalNumber (hfirst : digits.head? ≠ some '0') (hne : digits ≠ [])
    (point : Int) : (positionalNumber digits point).Proper := by
  obtain ⟨first, rest, rfl⟩ := List.exists_cons_of_ne_nil hne
  unfold positionalNumber
  split_ifs with hwhole hpoint
  · exact ⟨List.forall_mem_append.mpr ⟨hdigits, isDigit_of_mem_replicate⟩, by simp,
      fun h => absurd h hfirst, isDigit_zero, fun _ h => by cases h⟩
  · obtain ⟨n, hn⟩ : ∃ n, point.toNat = n + 1 := ⟨point.toNat - 1, by omega⟩
    refine ⟨fun c hc => hdigits c (List.mem_of_mem_take hc), ?_, ?_,
      fun c hc => hdigits c (List.mem_of_mem_drop hc), fun _ h => by cases h⟩
    · simp [hn]
    · rw [hn]
      exact fun h => absurd h hfirst
  · exact ⟨isDigit_zero, by simp, fun _ => rfl,
      List.forall_mem_append.mpr ⟨isDigit_of_mem_replicate, hdigits⟩, fun _ h => by cases h⟩

theorem proper_scientificNumber (hfirst : digits.head? ≠ some '0') (hne : digits ≠ [])
    (power : Int) : (scientificNumber digits power).Proper := by
  obtain ⟨first, rest, rfl⟩ := List.exists_cons_of_ne_nil hne
  refine ⟨fun c hc => hdigits c (List.mem_of_mem_take hc), by simp [scientificNumber],
    fun h => absurd h hfirst, fun c hc => hdigits c (List.mem_of_mem_drop hc), ?_⟩
  intro e he
  obtain rfl := Option.some.inj he
  exact ⟨Nat.toDigits_ne_nil, isDigit_of_mem_toDigits⟩

end Proper

theorem proper_written (d : Decimal) : (written d).Proper := by
  unfold written
  dsimp only
  split_ifs with hzero hpositional
  · exact ⟨isDigit_zero, by simp, fun _ => rfl, isDigit_zero, fun _ h => by cases h⟩
  · exact proper_positionalNumber isDigit_of_mem_toDigits
      (head?_toDigits_ne (Nat.pos_of_ne_zero hzero)) Nat.toDigits_ne_nil _
  · exact proper_scientificNumber isDigit_of_mem_toDigits
      (head?_toDigits_ne (Nat.pos_of_ne_zero hzero)) Nat.toDigits_ne_nil _

/-! ### Reading it -/

theorem negative_written (d : Decimal) : (written d).negative = false := by
  unfold written positionalNumber scientificNumber
  dsimp only
  split_ifs <;> rfl

/-- What is written is read. -/
theorem read?_layout (d : Decimal) : read? (numeralStyle.layout d) = some (written d) := by
  rw [← chars_written]
  exact read?_chars (proper_written d)

/-- So it is behind a minus. -/
theorem read?_neg_layout (d : Decimal) :
    read? ('-' :: numeralStyle.layout d) = some { written d with negative := true } := by
  have hchars : '-' :: numeralStyle.layout d = { written d with negative := true }.chars := by
    rw [← chars_written, chars, negative_written]
    rfl
  have h := proper_written d
  rw [hchars]
  exact read?_chars ⟨h.whole, h.nonempty, h.leading, h.fraction, h.exponent⟩

theorem word?_eq_none {n : Number} (h : n.fraction ≠ [] ∨ n.exponent ≠ none) : n.word? = none := by
  unfold word?
  dsimp only
  rw [if_neg]
  rintro ⟨hfraction, hexponent, -⟩
  exact h.elim (· hfraction) (· hexponent)

/-- No decimal is written as a bare whole number. -/
theorem fraction_or_exponent_written (d : Decimal) :
    (written d).fraction ≠ [] ∨ (written d).exponent ≠ none := by
  unfold written positionalNumber scientificNumber
  dsimp only
  split_ifs with hzero hpositional hwhole hpoint
  · exact .inl (List.cons_ne_nil _ _)
  · exact .inl (List.cons_ne_nil _ _)
  · exact .inl (drop_ne_nil_of_lt hpoint (Int.not_le.mp hwhole))
  · exact .inl fun h => Nat.toDigits_ne_nil (List.append_eq_nil_iff.mp h).2
  · exact .inr (Option.some_ne_none _)

/-- What is written is read by way of the 64-bit format. -/
theorem readSingle?_layout (d : Decimal) :
    readSingle? (numeralStyle.layout d) = (written d).rank?.map (narrow false) := by
  rw [readSingle?, read?_layout, Option.bind_some, single?,
    word?_eq_none (fraction_or_exponent_written d), negative_written]

theorem readSingle?_neg_layout (d : Decimal) :
    readSingle? ('-' :: numeralStyle.layout d) = (written d).rank?.map (narrow true) := by
  have hword : { written d with negative := true }.word? = none :=
    word?_eq_none (fraction_or_exponent_written d)
  rw [readSingle?, read?_neg_layout, Option.bind_some, single?, hword]
  rfl

/-! ### Its value -/

/-- Digits that make up a whole number of 64 bits are scaled as they stand. -/
theorem scaled_of_lt {n : Number}
    (h : Nat.ofDigitChars 10 (n.whole ++ n.fraction) 0 < wordBound) :
    n.scaled = (Nat.ofDigitChars 10 (n.whole ++ n.fraction) 0, -(n.fraction.length : Int)) := by
  rw [Nat.ofDigitChars_append] at h ⊢
  have hwhole := takeDigits_of_lt (Nat.lt_of_le_of_lt (le_ofDigitChars n.fraction _) h)
  have hfraction := takeDigits_of_lt h
  simp [scaled, hwhole, hfraction]

/-- A number without an exponent. -/
theorem rank?_of_none {n : Number} {value : Nat} {power : Int} (hexponent : n.exponent = none)
    (hvalue : Nat.ofDigitChars 10 (n.whole ++ n.fraction) 0 = value) (hlt : value < wordBound)
    (hpower : -(n.fraction.length : Int) = power) : n.rank? = scaleRank? value power := by
  subst hvalue hpower
  simp only [rank?, scaled_of_lt hlt, hexponent]

/-- A number with an exponent. -/
theorem rank?_of_some {n : Number} {value : Nat} {e power : Int}
    (hexponent : n.exponent = some (decide (e < 0), Nat.toDigits 10 e.natAbs))
    (hvalue : Nat.ofDigitChars 10 (n.whole ++ n.fraction) 0 = value) (hlt : value < wordBound)
    (hsmall : e.natAbs ≤ greatestExponent) (hpower : -(n.fraction.length : Int) + e = power) :
    n.rank? = scaleRank? value power := by
  subst hvalue hpower
  have hshift : (if decide (e < 0) = true then -(n.fraction.length : Int) - e.natAbs
      else -(n.fraction.length : Int) + e.natAbs) = -(n.fraction.length : Int) + e := by
    by_cases hneg : e < 0
    · rw [if_pos (decide_eq_true hneg)]
      omega
    · rw [if_neg (by simpa using hneg)]
      omega
  simp only [rank?, scaled_of_lt hlt, hexponent, digitsValue_toDigits,
    if_neg (Nat.not_lt.mpr hsmall), hshift]

section Scaling

variable {digits : List Char} {value : Nat} {point power : Int}

/-- Digits that end before the point are scaled with the zero behind it. -/
theorem rank?_positionalNumber_whole {zeros : Nat} (hpoint : point = digits.length + zeros)
    (hvalue : Nat.ofDigitChars 10 digits 0 = value) (hlt : value * 10 ^ (zeros + 1) < wordBound) :
    (positionalNumber digits point).rank? = scaleRank? (value * 10 ^ (zeros + 1)) (-1) := by
  have hwhole : digits.length ≤ point := by omega
  have hzeros : (point - digits.length).toNat = zeros := by omega
  have hrun : List.replicate zeros '0' ++ ['0'] = List.replicate (zeros + 1) '0' :=
    List.replicate_succ'.symm
  rw [positionalNumber, if_pos hwhole, hzeros]
  refine rank?_of_none rfl ?_ hlt rfl
  rw [List.append_assoc, hrun, Nat.ofDigitChars_append, hvalue, Nat.ofDigitChars_replicate_zero,
    Nat.mul_comm]

/-- Digits that end behind the point are scaled as they stand. -/
theorem rank?_positionalNumber_fraction (hpoint : point < digits.length)
    (hvalue : Nat.ofDigitChars 10 digits 0 = value) (hlt : value < wordBound) :
    (positionalNumber digits point).rank? = scaleRank? value (point - digits.length) := by
  unfold positionalNumber
  rw [if_neg (Int.not_le.mpr hpoint)]
  split
  · refine rank?_of_none rfl ?_ hlt ?_
    · rw [List.take_append_drop, hvalue]
    · rw [List.length_drop]
      omega
  · refine rank?_of_none rfl ?_ hlt ?_
    · have hrun : ['0'] = List.replicate 1 '0' := rfl
      rw [hrun, ← List.append_assoc, List.replicate_append_replicate, Nat.ofDigitChars_append,
        Nat.ofDigitChars_replicate_zero, Nat.mul_zero, hvalue]
    · rw [List.length_append, List.length_replicate]
      omega

/-- So are digits that are written with an exponent. -/
theorem rank?_scientificNumber (hsome : 0 < digits.length) (hpower : power.natAbs ≤ 2000)
    (hvalue : Nat.ofDigitChars 10 digits 0 = value) (hlt : value < wordBound) :
    (scientificNumber digits power).rank? = scaleRank? value (power + 1 - digits.length) := by
  refine rank?_of_some (e := power) rfl ?_ hlt ?_ ?_
  · rw [scientificNumber, List.take_append_drop, hvalue]
  · have hgreat : 2000 ≤ greatestExponent := by decide
    omega
  · rw [scientificNumber, List.length_drop]
    omega

end Scaling

/-- The digits of a decimal and the power of ten that its reader scales them by. -/
theorem rank?_written {d : Decimal} (hpos : 0 < d.significand) (hlt : d.significand < 10 ^ 15)
    (hlow : -1000 ≤ d.exponent) (hhigh : d.exponent ≤ 1000) :
    (written d).rank? = scaleRank? d.significand d.exponent ∨
      ∃ e : Nat, d.exponent = e ∧ d.significand * 10 ^ (e + 1) < 10 ^ 15 ∧
        (written d).rank? = scaleRank? (d.significand * 10 ^ (e + 1)) (-1) := by
  have hbound : 10 ^ 15 < wordBound := by decide
  have hvalue : Nat.ofDigitChars 10 (Nat.toDigits 10 d.significand) 0 = d.significand :=
    Nat.ofDigitChars_ten_toDigits
  have hdigits : d.significand < 10 ^ (Nat.toDigits 10 d.significand).length :=
    (Nat.length_toDigits_le_iff (by decide) Nat.length_toDigits_pos).mp (Nat.le_refl _)
  have hlength : (Nat.toDigits 10 d.significand).length ≤ 15 :=
    (Nat.length_toDigits_le_iff (by decide) (by decide)).mpr hlt
  have hsome : 0 < (Nat.toDigits 10 d.significand).length := Nat.length_toDigits_pos
  unfold written
  dsimp only
  rw [if_neg hpos.ne']
  generalize Nat.toDigits 10 d.significand = digits at *
  split_ifs with hpositional
  · rcases lt_or_ge d.exponent 0 with hsign | hsign
    · left
      rw [rank?_positionalNumber_fraction (by omega) hvalue (hlt.trans hbound),
        Int.add_sub_cancel]
    · right
      obtain ⟨e, he⟩ := Int.eq_ofNat_of_zero_le hsign
      have hfew : digits.length + (e + 1) ≤ 15 := by
        simp only [NumeralStyle.isPositional, numeralStyle, Option.all_some,
          Bool.and_eq_true, decide_eq_true_eq] at hpositional
        omega
      have hsmall : d.significand * 10 ^ (e + 1) < 10 ^ 15 := by
        calc d.significand * 10 ^ (e + 1) < 10 ^ digits.length * 10 ^ (e + 1) :=
              Nat.mul_lt_mul_of_pos_right hdigits (Nat.pow_pos (by decide))
          _ = 10 ^ (digits.length + (e + 1)) := (Nat.pow_add ..).symm
          _ ≤ 10 ^ 15 := Nat.pow_le_pow_right (by decide) hfew
      exact ⟨e, he, hsmall,
        rank?_positionalNumber_whole (by omega) hvalue (hsmall.trans hbound)⟩
  · left
    have hpower : (d.exponent + digits.length - 1).natAbs ≤ 2000 := by omega
    rw [rank?_scientificNumber hsome hpower hvalue (hlt.trans hbound), Int.sub_add_cancel,
      Int.add_sub_cancel]

end FormulaChain.Json
