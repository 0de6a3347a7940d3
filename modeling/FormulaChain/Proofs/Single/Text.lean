import FormulaChain.Proofs.Decimal.Layout
import FormulaChain.Proofs.Decimal.Rounding
import FormulaChain.Proofs.Single.Digits

/-!
# Texts of numbers

In every style, the text of a number is read back as that number (`ofText?_toText`), so that
different numbers have different texts (`toText_inj`); only that of "not a number" shows no sign.
The texts consist of letters, digits, points and signs (`isNumeralChar_of_mem_toText`).
-/

namespace FormulaChain

namespace Single

open BinaryFormat

/-- A number other than "not a number". -/
def IsNumber (s : Single) : Prop := ∀ negative, s ≠ .nan negative

instance (s : Single) : Decidable s.IsNumber :=
  inferInstanceAs (Decidable (∀ negative, s ≠ .nan negative))

/-- **The shortest decimal of a magnitude is rounded to it.** -/
theorem nearestRank_shortestDecimal (tie : DecimalTie) (r : Fin 0x7F800000) :
    (shortestDecimal (readsAs r) tie r).nearestRank .binary32 = r := by
  rcases Nat.eq_zero_or_pos r with hzero | hpos
  · rw [shortestDecimal, if_pos hzero, hzero]
    rfl
  · obtain ⟨hleast, hfew, hnear⟩ := Decimal.low_near hpos r.isLt
    have hlow : (Decimal.low (binary32.units r) (twoTo binary32.unitExponent) 10).nearestRank
        .binary32 = r :=
      Decimal.nearestRank_of_near hpos r.isLt hleast (hfew.trans_le (by decide)) hnear
    have hreads : readsAs r (Decimal.low (binary32.units r) (twoTo binary32.unitExponent) 10) =
        true := beq_iff_eq.mpr hlow
    obtain ⟨d, hread, hshortest⟩ := Decimal.exists_shortestDecimal_eq hpos hreads tie
    rw [hshortest, Decimal.nearestRank_congr _ d.value_normalize]
    exact beq_iff_eq.mp hread

/-- The digits of a magnitude are read as that magnitude. -/
theorem ofUnsigned?_layout (style : NumeralStyle) (negative : Bool) (r : Fin 0x7F800000) :
    ofUnsigned? negative (style.layout (shortestDecimal (readsAs r) style.tie r)) =
      some (.finite negative r) := by
  obtain ⟨d, hread, hvalue⟩ := style.exists_read?_layout (shortestDecimal (readsAs r) style.tie r)
  obtain ⟨c, rest, htext, hdigit⟩ :=
    style.exists_layout_eq_cons (shortestDecimal (readsAs r) style.tie r)
  have hword : ofWord? negative (style.layout (shortestDecimal (readsAs r) style.tie r)) = none :=
    ofWord?_eq_none_of_mem (htext ▸ List.mem_cons_self) hdigit negative
  have hrank : d.nearestRank .binary32 = r := by
    rw [Decimal.nearestRank_congr _ hvalue, nearestRank_shortestDecimal]
  rw [ofUnsigned?, hword, Option.none_or, hread, Option.map_some, ofDecimal, hrank, ofRank,
    dif_pos r.isLt]

/-- **Every number is read from its text**, in every style. -/
theorem ofText?_toText (style : NumeralStyle) {s : Single} (h : s.IsNumber) :
    ofText? (s.toText style) = some s := by
  cases s with
  | nan negative => exact absurd rfl (h negative)
  | infinite negative =>
    have hwords : ofText? "inf" = some (.infinite false) ∧
      ofText? "-inf" = some (.infinite true) := by decide
    cases negative with
    | false => exact hwords.1
    | true => exact hwords.2
  | finite negative r =>
    have hread := ofUnsigned?_layout style negative r
    rw [ofText?, toText, String.toList_ofList]
    cases negative with
    | true => exact hread
    | false =>
      obtain ⟨c, rest, htext, hdigit⟩ :=
        style.exists_layout_eq_cons (shortestDecimal (readsAs r) style.tie r)
      have hsign : ∀ sign, sign.isDigit = false → (c :: rest).head? ≠ some sign := by
        rintro sign hsign heq
        rw [← Option.some.inj heq, hdigit] at hsign
        cases hsign
      rw [htext] at hread ⊢
      exact (ofChars?_of_unsigned (hsign '-' rfl) (hsign '+' rfl)).trans hread

/-- Different numbers have different texts. -/
theorem toText_inj (style : NumeralStyle) {s s' : Single} (h : s.IsNumber) (h' : s'.IsNumber) :
    s.toText style = s'.toText style ↔ s = s' := by
  refine ⟨fun heq => ?_, fun heq => heq ▸ rfl⟩
  have hread := congrArg ofText? heq
  rw [ofText?_toText style h, ofText?_toText style h'] at hread
  exact Option.some.inj hread

/-- The text of a number consists of the characters of number literals. -/
theorem isNumeralChar_of_mem_toText (style : NumeralStyle) (s : Single) {c : Char}
    (hc : c ∈ (s.toText style).toList) : isNumeralChar c = true := by
  by_cases h : s.IsNumber
  · exact isNumeralChar_of_ofText? (ofText?_toText style h) hc
  · obtain ⟨negative, hs⟩ := not_forall.mp h
    obtain rfl := not_not.mp hs
    have hnan : ofText? "NaN" = some (.nan false) := by decide
    exact isNumeralChar_of_ofText? hnan hc

end Single

end FormulaChain
