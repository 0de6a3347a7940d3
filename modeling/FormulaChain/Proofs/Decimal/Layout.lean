import FormulaChain.Proofs.Decimal.Digits
import FormulaChain.Proofs.Decimal.Grid
import FormulaChain.Proofs.Text.Run
import FormulaChain.Single.Numeral
import Mathlib.Tactic.SplitIfs

/-!
# Laid out decimals

A decimal that is laid out in any style, with a point or an exponent and with zeros where the style
wants them, is read as a decimal of the same value (`exists_read?_layout`). The text begins with a
digit (`exists_layout_eq_cons`).
-/

namespace FormulaChain

namespace Decimal

open Text

/-! ### Numerals in parts -/

section Parts

variable (whole fraction tail : List Char)

/-- A numeral without a point. -/
theorem read?_whole (hwhole : IsRun whole)
    (htail : ∀ c ∈ tail.head?, c.isDigit = false ∧ c ≠ '.') :
    read? (whole ++ tail) = (readExponent tail).map (⟨digitsValue whole, ·⟩) := by
  have hhead : ∀ c ∈ tail.head?, c.isDigit = false := fun c hc => (htail c hc).1
  have hpoint : ∀ rest, tail ≠ '.' :: rest := by
    rintro rest rfl
    exact (htail '.' rfl).2 rfl
  simp [read?, takeWhile_append_of_head hwhole.isDigit hhead,
    dropWhile_append_of_head hwhole.isDigit hhead, hwhole.ne_nil]

/-- A numeral with a point. -/
theorem read?_point (hwhole : ∀ c ∈ whole, c.isDigit = true)
    (hfraction : ∀ c ∈ fraction, c.isDigit = true) (hne : whole ++ fraction ≠ [])
    (htail : ∀ c ∈ tail.head?, c.isDigit = false) :
    read? (whole ++ '.' :: (fraction ++ tail)) =
      (readExponent tail).map fun e => ⟨digitsValue (whole ++ fraction), e - fraction.length⟩ := by
  have hpoint : ∀ c ∈ ('.' :: (fraction ++ tail)).head?, c.isDigit = false := by
    rintro c ⟨⟩
    rfl
  unfold read?
  simp only [takeWhile_append_of_head hwhole hpoint, dropWhile_append_of_head hwhole hpoint,
    takeWhile_append_of_head hfraction htail, dropWhile_append_of_head hfraction htail, if_neg hne]

/-- A numeral with a point and no exponent. -/
theorem read?_fraction (hwhole : ∀ c ∈ whole, c.isDigit = true)
    (hfraction : ∀ c ∈ fraction, c.isDigit = true) (hne : whole ++ fraction ≠ []) :
    read? (whole ++ '.' :: fraction) =
      some ⟨digitsValue (whole ++ fraction), -(fraction.length : Int)⟩ := by
  have hread := read?_point whole fraction [] hwhole hfraction hne (by simp)
  rw [List.append_nil] at hread
  rw [hread, readExponent, Option.map_some, Int.zero_sub]

/-- The exponent of a numeral, with and without a sign. -/
theorem readExponent_digits {digits : List Char} (hdigits : IsRun digits) :
    readExponent ('e' :: '-' :: digits) = some (-(digitsValue digits : Int)) ∧
      readExponent ('e' :: '+' :: digits) = some (digitsValue digits : Int) ∧
      readExponent ('e' :: digits) = some (digitsValue digits : Int) := by
  have hall : digits.all Char.isDigit = true := List.all_eq_true.mpr hdigits.isDigit
  obtain ⟨c, rest, rfl, hminus, hplus⟩ := hdigits.exists_cons
  refine ⟨?_, ?_, ?_⟩
  · simp [readExponent, hall]
  · simp [readExponent, hall]
  · simp [readExponent, hall, hminus, hplus]

end Parts

end Decimal

namespace NumeralStyle

open Decimal

variable {digits : List Char}

/-! ### The three layouts -/

/-- Digits before the point, with zeros up to the point. -/
theorem read?_positional_whole (style : NumeralStyle) (hdigits : IsRun digits) (zeros : Nat) :
    ∃ d, read? (style.positional digits (digits.length + zeros)) = some d ∧
      d.value = digitsValue digits * 10 ^ zeros := by
  have hrun : IsRun (digits ++ List.replicate zeros '0') :=
    ⟨List.append_ne_nil_of_left_ne_nil hdigits.ne_nil _,
      List.forall_mem_append.mpr ⟨hdigits.isDigit, isDigit_of_mem_replicate⟩⟩
  have hwhole : (digits.length : Int) ≤ digits.length + zeros := by omega
  have hzeros : ((digits.length : Int) + zeros - digits.length).toNat = zeros := by omega
  unfold positional
  simp only [if_pos hwhole, hzeros]
  cases style.zeroFraction with
  | true =>
    have hread := read?_fraction _ ['0'] hrun.isDigit (by simp) (by simp)
    refine ⟨_, hread, ?_⟩
    rw [List.append_assoc, ← List.replicate_succ', digitsValue_append_zeros, value]
    push_cast
    rw [pow_succ]
    norm_num
    ring
  | false =>
    have hread := read?_whole _ [] hrun (by simp)
    rw [List.append_nil] at hread
    rw [if_neg Bool.false_ne_true, List.append_nil]
    refine ⟨_, hread, ?_⟩
    rw [digitsValue_append_zeros, value]
    push_cast
    rw [mul_one]

/-- Digits of which some stand behind the point. -/
theorem read?_positional_fraction (style : NumeralStyle) (hdigits : IsRun digits) {point : Int}
    (hpoint : point < digits.length) :
    read? (style.positional digits point) =
      some ⟨digitsValue digits, point - digits.length⟩ := by
  unfold positional
  simp only [if_neg (Int.not_le.mpr hpoint)]
  by_cases hpos : 0 < point
  · have hplaces : -((digits.drop point.toNat).length : Int) = point - digits.length := by
      rw [List.length_drop]
      omega
    have hall : digits.take point.toNat ++ digits.drop point.toNat = digits :=
      List.take_append_drop _ _
    have hne : digits.take point.toNat ++ digits.drop point.toNat ≠ [] :=
      hall.symm ▸ hdigits.ne_nil
    rw [if_pos hpos, read?_fraction _ _ (fun c hc => hdigits.isDigit c (List.mem_of_mem_take hc))
      (fun c hc => hdigits.isDigit c (List.mem_of_mem_drop hc)) hne, hall, hplaces]
  · have hplaces : -((List.replicate (-point).toNat '0' ++ digits).length : Int) =
        point - digits.length := by
      rw [List.length_append, List.length_replicate]
      omega
    have hvalue : digitsValue (['0'] ++ (List.replicate (-point).toNat '0' ++ digits)) =
        digitsValue digits := digitsValue_zeros_append ((-point).toNat + 1) digits
    have hread := read?_fraction ['0'] (List.replicate (-point).toNat '0' ++ digits) (by simp)
      (List.forall_mem_append.mpr ⟨isDigit_of_mem_replicate, hdigits.isDigit⟩) (by simp)
    rw [hvalue, hplaces] at hread
    rw [if_neg hpos, List.append_assoc]
    exact hread

/-- Digits with an exponent are a digit, the others behind a point, and the exponent, which is read
with its sign. -/
theorem exists_scientific_eq (style : NumeralStyle) (power : Int) :
    ∃ tail, readExponent ('e' :: tail) = some power ∧
      (∀ first, style.scientific [first] power = [first] ++ 'e' :: tail) ∧
      ∀ first second rest, style.scientific (first :: second :: rest) power =
        [first] ++ '.' :: (second :: rest ++ 'e' :: tail) := by
  refine ⟨(if power < 0 then "-" else if style.plusExponent then "+" else "").toList ++
    Nat.toDigits 10 power.natAbs, ?_, fun first => ?_, fun first second rest => ?_⟩
  · obtain ⟨hminus, hplus, hnone⟩ := readExponent_digits (isRun_toDigits power.natAbs)
    rw [digitsValue_toDigits] at hminus hplus hnone
    by_cases hsign : power < 0
    · rw [if_pos hsign]
      exact hminus.trans (congrArg some (by omega))
    · have hnonneg : (power.natAbs : Int) = power := by omega
      rw [hnonneg] at hplus hnone
      rw [if_neg hsign]
      cases style.plusExponent with
      | true => exact hplus
      | false => exact hnone
  · simp [scientific]
  · simp [scientific]

/-- Digits with an exponent. -/
theorem read?_scientific (style : NumeralStyle) (hdigits : IsRun digits) (power : Int) :
    read? (style.scientific digits power) =
      some ⟨digitsValue digits, power + 1 - digits.length⟩ := by
  obtain ⟨tail, hexponent, hone, hmore⟩ := style.exists_scientific_eq power
  have hmark : ∀ c ∈ ('e' :: tail).head?, c.isDigit = false ∧ c ≠ '.' := by
    rintro c ⟨⟩
    decide
  match digits, hdigits with
  | [], h => exact absurd rfl h.ne_nil
  | [first], h =>
    rw [hone, read?_whole _ _ h hmark, hexponent]
    simp
  | first :: second :: rest, h =>
    obtain ⟨hfirst, hrest⟩ := List.forall_mem_cons.mp h.isDigit
    have hread := read?_point [first] (second :: rest) ('e' :: tail)
      (List.forall_mem_singleton.mpr hfirst) hrest (by simp) fun c hc => (hmark c hc).1
    have hplaces : power - ((second :: rest).length : Int) =
        power + 1 - (first :: second :: rest).length := by
      simp only [List.length_cons]
      omega
    rw [hmore, hread, hexponent, Option.map_some, hplaces]
    rfl

/-! ### All decimals -/

/-- **What is written for a decimal is read as a decimal of the same value**, in every style. -/
theorem exists_read?_layout (style : NumeralStyle) (d : Decimal) :
    ∃ d', read? (style.layout d) = some d' ∧ d'.value = d.value := by
  unfold layout
  by_cases hzero : d.significand = 0
  · have hvalue : d.value = 0 := by rw [value, hzero, Nat.cast_zero, zero_mul]
    rw [if_pos hzero, hvalue]
    cases style.zeroFraction with
    | true => exact ⟨⟨0, -1⟩, by decide, by simp [value]⟩
    | false => exact ⟨⟨0, 0⟩, by decide, by simp [value]⟩
  · rw [if_neg hzero]
    have hrun := isRun_toDigits d.significand
    have hvalue := digitsValue_toDigits d.significand
    dsimp only
    generalize Nat.toDigits 10 d.significand = digits at *
    split
    · rcases lt_or_ge d.exponent 0 with hsign | hsign
      · refine ⟨d, ?_, rfl⟩
        rw [read?_positional_fraction style hrun (by omega), hvalue, Int.add_sub_cancel]
      · obtain ⟨zeros, hzeros⟩ := Int.eq_ofNat_of_zero_le hsign
        obtain ⟨d', hread, hd'⟩ := style.read?_positional_whole hrun zeros
        refine ⟨d', ?_, ?_⟩
        · rw [hzeros, Int.add_comm, hread]
        · rw [hd', hvalue, value, hzeros, zpow_natCast]
    · refine ⟨d, ?_, rfl⟩
      rw [read?_scientific style hrun, hvalue, Int.sub_add_cancel, Int.add_sub_cancel]

/-- It begins with a digit. -/
theorem exists_layout_eq_cons (style : NumeralStyle) (d : Decimal) :
    ∃ c rest, style.layout d = c :: rest ∧ c.isDigit = true := by
  have hrun := isRun_toDigits d.significand
  unfold layout
  dsimp only
  generalize Nat.toDigits 10 d.significand = digits at *
  obtain ⟨c, rest, rfl⟩ := List.exists_cons_of_ne_nil hrun.ne_nil
  have hc : c.isDigit = true := hrun.isDigit c List.mem_cons_self
  split_ifs with hzero hfraction hpositional
  · exact ⟨'0', _, rfl, rfl⟩
  · exact ⟨'0', _, rfl, rfl⟩
  · unfold positional
    dsimp only
    split_ifs with hwhole hfraction hpoint
    · exact ⟨c, _, rfl, hc⟩
    · exact ⟨c, _, rfl, hc⟩
    · obtain ⟨n, hn⟩ : ∃ n, (d.exponent + ((c :: rest).length : Int)).toNat = n + 1 :=
        ⟨(d.exponent + ((c :: rest).length : Int)).toNat - 1, by omega⟩
      rw [hn]
      exact ⟨c, _, rfl, hc⟩
    · exact ⟨'0', _, rfl, rfl⟩
  · obtain ⟨tail, -, hone, hmore⟩ :=
      style.exists_scientific_eq (d.exponent + ((c :: rest).length : Int) - 1)
    cases rest with
    | nil => exact ⟨c, _, hone c, hc⟩
    | cons second rest => exact ⟨c, _, hmore c second rest, hc⟩

end NumeralStyle

end FormulaChain
