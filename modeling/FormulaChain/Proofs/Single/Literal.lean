import FormulaChain.Single.Literal
import Mathlib

/-!
# The characters of number literals

A number literal consists of letters, digits, points and signs (`isNumeralChar_of_ofText?`), and it
is not empty. So a word with any other character in it, such as a parenthesis or an underscore, is
no number, and a literal in a formula is never cut by a separator.
-/

namespace FormulaChain

/-- The characters that number literals consist of. -/
def isNumeralChar (c : Char) : Bool :=
  c.isAlphanum || c = '.' || c = '+' || c = '-'

theorem isNumeralChar_of_isDigit {c : Char} (h : c.isDigit = true) : isNumeralChar c = true := by
  simp [isNumeralChar, Char.isAlphanum, h]

/-- Between the plus sign and the small z. -/
theorem toNat_of_isNumeralChar {c : Char} (h : isNumeralChar c = true) :
    43 ≤ c.toNat ∧ c.toNat ≤ 122 := by
  simp only [isNumeralChar, Char.isAlphanum, Char.isAlpha, Char.isUpper, Char.isLower,
    Char.isDigit, Bool.or_eq_true, Bool.and_eq_true, decide_eq_true_eq, ge_iff_le,
    UInt32.le_iff_toNat_le] at h
  rcases h with ((((hupper | hlower) | hdigit) | rfl) | rfl) | rfl
  · exact ⟨Nat.le_trans (by decide) hupper.1, Nat.le_trans hupper.2 (by decide)⟩
  · exact ⟨Nat.le_trans (by decide) hlower.1, Nat.le_trans hlower.2 (by decide)⟩
  · exact ⟨Nat.le_trans (by decide) hdigit.1, Nat.le_trans hdigit.2 (by decide)⟩
  · decide
  · decide
  · decide

/-- A character whose lower case is a letter is a letter itself. -/
theorem isNumeralChar_of_isLower_toLower {c : Char} (h : c.toLower.isLower = true) :
    isNumeralChar c = true := by
  rw [Char.isLower_toLower_eq_isAlpha] at h
  simp [isNumeralChar, Char.isAlphanum, h]

namespace Decimal

/-- What stands behind the mark of an exponent: an optional sign and digits. -/
theorem isNumeralChar_of_exponentDigits {rest digits : List Char}
    (hrest : rest = digits ∨ ∃ sign, (sign = '-' ∨ sign = '+') ∧ rest = sign :: digits)
    (hall : digits.all Char.isDigit = true) {c : Char} (hc : c ∈ rest) :
    isNumeralChar c = true := by
  have hdigits : ∀ d ∈ digits, isNumeralChar d = true :=
    fun d hd => isNumeralChar_of_isDigit (List.all_eq_true.mp hall d hd)
  rcases hrest with rfl | ⟨sign, hsign, rfl⟩
  · exact hdigits c hc
  · rcases List.mem_cons.mp hc with rfl | hc
    · rcases hsign with rfl | rfl <;> decide
    · exact hdigits c hc

theorem isNumeralChar_of_readExponent {text : List Char} {e : Int}
    (h : readExponent text = some e) {c : Char} (hc : c ∈ text) : isNumeralChar c = true := by
  cases text with
  | nil => cases hc
  | cons mark rest =>
    obtain ⟨hmark, h⟩ := Option.ite_none_right_eq_some.mp h
    rcases List.mem_cons.mp hc with rfl | hc
    · rcases hmark with rfl | rfl <;> decide
    · split at h
      · obtain ⟨⟨-, hall⟩, -⟩ := Option.ite_none_right_eq_some.mp h
        exact isNumeralChar_of_exponentDigits (.inr ⟨_, .inl rfl, rfl⟩) hall hc
      · obtain ⟨⟨-, hall⟩, -⟩ := Option.ite_none_right_eq_some.mp h
        exact isNumeralChar_of_exponentDigits (.inr ⟨_, .inr rfl, rfl⟩) hall hc
      · obtain ⟨⟨-, hall⟩, -⟩ := Option.ite_none_right_eq_some.mp h
        exact isNumeralChar_of_exponentDigits (.inl rfl) hall hc

theorem isNumeralChar_of_read? {text : List Char} {d : Decimal} (h : read? text = some d)
    {c : Char} (hc : c ∈ text) : isNumeralChar c = true := by
  obtain ⟨-, h⟩ := Option.ite_none_left_eq_some.mp h
  obtain ⟨e, he, -⟩ := Option.map_eq_some_iff.mp h
  rw [← List.takeWhile_append_dropWhile (p := Char.isDigit) (l := text), List.mem_append] at hc
  rcases hc with hc | hc
  · exact isNumeralChar_of_isDigit (List.mem_takeWhile_imp hc)
  · split at he
    · next rest heq =>
      rw [heq] at hc
      rcases List.mem_cons.mp hc with rfl | hc
      · decide
      · rw [← List.takeWhile_append_dropWhile (p := Char.isDigit) (l := rest),
          List.mem_append] at hc
        rcases hc with hc | hc
        · exact isNumeralChar_of_isDigit (List.mem_takeWhile_imp hc)
        · exact isNumeralChar_of_readExponent he hc
    · exact isNumeralChar_of_readExponent he hc

end Decimal

namespace Single

theorem isNumeralChar_of_ofWord? {negative : Bool} {text : List Char} {value : Single}
    (h : ofWord? negative text = some value) {c : Char} (hc : c ∈ text) :
    isNumeralChar c = true := by
  have hlower : c.toLower ∈ text.map Char.toLower := List.mem_map_of_mem hc
  unfold ofWord? at h
  apply isNumeralChar_of_isLower_toLower
  generalize text.map Char.toLower = lower at h hlower
  generalize c.toLower = l at hlower
  by_cases hinf : lower = "inf".toList ∨ lower = "infinity".toList
  · rcases hinf with rfl | rfl
    · exact List.all_eq_true.mp (by decide : "inf".toList.all Char.isLower = true) l hlower
    · exact List.all_eq_true.mp (by decide : "infinity".toList.all Char.isLower = true) l hlower
  · rw [if_neg hinf] at h
    by_cases hnan : lower = "nan".toList
    · subst hnan
      exact List.all_eq_true.mp (by decide : "nan".toList.all Char.isLower = true) l hlower
    · rw [if_neg hnan] at h
      cases h

theorem isNumeralChar_of_ofUnsigned? {negative : Bool} {text : List Char} {value : Single}
    (h : ofUnsigned? negative text = some value) {c : Char} (hc : c ∈ text) :
    isNumeralChar c = true := by
  rcases Option.or_eq_some_iff.mp h with hword | ⟨-, hdecimal⟩
  · exact isNumeralChar_of_ofWord? hword hc
  · obtain ⟨d, hd, -⟩ := Option.map_eq_some_iff.mp hdecimal
    exact Decimal.isNumeralChar_of_read? hd hc

/-- **A number literal consists of letters, digits, points and signs.** -/
theorem isNumeralChar_of_ofText? {text : String} {value : Single} (h : ofText? text = some value)
    {c : Char} (hc : c ∈ text.toList) : isNumeralChar c = true := by
  unfold ofText? ofChars? at h
  split at h
  · next rest heq =>
    rw [heq] at hc
    rcases List.mem_cons.mp hc with rfl | hc
    · decide
    · exact isNumeralChar_of_ofUnsigned? h hc
  · next rest heq =>
    rw [heq] at hc
    rcases List.mem_cons.mp hc with rfl | hc
    · decide
    · exact isNumeralChar_of_ofUnsigned? h hc
  · exact isNumeralChar_of_ofUnsigned? h hc

theorem ofText?_empty : ofText? "" = none := by decide

/-- A text with a character of another kind in it is no number. -/
theorem ofText?_eq_none_of_mem {text : String} {c : Char} (hc : c ∈ text.toList)
    (h : isNumeralChar c = false) : ofText? text = none := by
  cases hv : ofText? text with
  | none => rfl
  | some value =>
    rw [isNumeralChar_of_ofText? hv hc] at h
    cases h

end Single

end FormulaChain
