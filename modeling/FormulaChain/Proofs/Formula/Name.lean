import FormulaChain.Formula.Evaluation
import FormulaChain.Proofs.Single.Literal
import Mathlib.Data.List.Infix

/-!
# Synthetic names

The names of intermediate results: the stem, followed by the number of the result unless that is
zero. No two numbers give the same name, and every name begins with the stem.

A stem is plain if its names can only be read as names. It has no parenthesis, so that no name opens
or closes a vector literal, and none of its names is a numeral: a stem such as `1` or `inf` is not
plain, since the first result would be taken for a number.
-/

namespace FormulaChain

/-- What follows the stem in a synthetic name. -/
def numberSuffix : Nat → List Char
  | 0 => []
  | n + 1 => Nat.toDigits 10 (n + 1)

theorem toList_syntheticName (stem : String) (n : Nat) :
    (syntheticName stem n).toList = stem.toList ++ numberSuffix n := by
  cases n <;> simp [syntheticName, numberSuffix]

theorem hasStem_iff {stem text : String} :
    hasStem stem text = true ↔ stem.toList <+: text.toList := by
  simp [hasStem]

/-- Synthetic names begin with their stem. -/
theorem hasStem_syntheticName (stem : String) (n : Nat) :
    hasStem stem (syntheticName stem n) = true := by
  rw [hasStem_iff, toList_syntheticName]
  exact List.prefix_append _ _

/-- The number is read off its digits. -/
theorem ofDigitChars_numberSuffix (n : Nat) : Nat.ofDigitChars 10 (numberSuffix n) 0 = n := by
  cases n with
  | zero => rfl
  | succ n => exact Nat.ofDigitChars_ten_toDigits

theorem numberSuffix_injective : Function.Injective numberSuffix :=
  Function.LeftInverse.injective (g := fun digits => Nat.ofDigitChars 10 digits 0)
    ofDigitChars_numberSuffix

/-- Different numbers give different names. -/
theorem syntheticName_injective (stem : String) : Function.Injective (syntheticName stem) := by
  intro m n h
  have hl := congrArg String.toList h
  rw [toList_syntheticName, toList_syntheticName] at hl
  exact numberSuffix_injective (List.append_cancel_left hl)

theorem ne_syntheticName_of_not_hasStem {stem text : String} (h : hasStem stem text = false)
    (n : Nat) : text ≠ syntheticName stem n := by
  rintro rfl
  rw [hasStem_syntheticName] at h
  cases h

theorem isDigit_of_mem_numberSuffix {c : Char} {n : Nat} (h : c ∈ numberSuffix n) :
    c.isDigit = true := by
  cases n with
  | zero => cases h
  | succ n => exact Nat.isDigit_of_mem_toDigits (by decide) (by decide) h

/-- A character that is no digit stands in a synthetic name only if it stands in the stem. -/
theorem mem_stem_of_mem_syntheticName {stem : String} {n : Nat} {c : Char}
    (h : c ∈ (syntheticName stem n).toList) (hc : c.isDigit = false) : c ∈ stem.toList := by
  rw [toList_syntheticName, List.mem_append] at h
  rcases h with h | h
  · exact h
  · rw [isDigit_of_mem_numberSuffix h] at hc
    cases hc

/-! ### Plain stems -/

/-- A stem whose names are read as names wherever they stand. -/
structure PlainStem (stem : String) : Prop where
  /-- No name opens a vector literal. -/
  noOpening : '(' ∉ stem.toList
  /-- No name closes a vector literal. -/
  noClosing : ')' ∉ stem.toList
  /-- No name is a numeral. -/
  noNumeral : ∀ n, Single.ofText? (syntheticName stem n) = none

/-- A stem without parentheses that has a character no numeral has is plain. -/
theorem plainStem_of_mem {stem : String} {c : Char} (hopening : '(' ∉ stem.toList)
    (hclosing : ')' ∉ stem.toList) (hc : c ∈ stem.toList) (hn : isNumeralChar c = false) :
    PlainStem stem := by
  refine ⟨hopening, hclosing, fun n => Single.ofText?_eq_none_of_mem (c := c) ?_ hn⟩
  rw [toList_syntheticName]
  exact List.mem_append_left _ hc

theorem withoutClosing?_eq_none {text : String} (h : ')' ∉ text.toList) :
    withoutClosing? text = none := by
  unfold withoutClosing?
  rw [if_neg]
  exact fun hlast => h (List.mem_of_getLast? hlast)

theorem withoutClosing?_eq_none_iff {text : String} :
    withoutClosing? text = none ↔ text.toList.getLast? ≠ some ')' := by
  unfold withoutClosing?
  split <;> simp_all

/-- Only the name with the number zero can end in a closing parenthesis. -/
theorem withoutClosing?_syntheticName {stem : String} (h : withoutClosing? stem = none) (n : Nat) :
    withoutClosing? (syntheticName stem n) = none := by
  cases n with
  | zero => exact h
  | succ n =>
    have hne : numberSuffix (n + 1) ≠ [] := Nat.toDigits_ne_nil
    rw [withoutClosing?_eq_none_iff, toList_syntheticName, List.getLast?_append_of_ne_nil _ hne]
    intro hlast
    exact absurd (isDigit_of_mem_numberSuffix (List.mem_of_getLast? hlast)) (by decide)

theorem withoutOpening?_eq_none {text : String} (h : '(' ∉ text.toList) :
    withoutOpening? text = none := by
  unfold withoutOpening?
  split
  · next rest heq => rw [heq] at h; exact absurd List.mem_cons_self h
  · rfl

theorem withoutOpening?_append (text : String) : withoutOpening? ("(" ++ text) = some text := by
  have h : ("(" : String).toList = ['('] := by decide
  simp [withoutOpening?, String.toList_append, h]

theorem withoutClosing?_append (text : String) : withoutClosing? (text ++ ")") = some text := by
  have h : (")" : String).toList = [')'] := by decide
  simp [withoutClosing?, String.toList_append, h]

namespace PlainStem

variable {stem : String} (h : PlainStem stem)

include h

theorem opening_notMem (n : Nat) : '(' ∉ (syntheticName stem n).toList :=
  fun hmem => h.noOpening (mem_stem_of_mem_syntheticName hmem (by decide))

theorem closing_notMem (n : Nat) : ')' ∉ (syntheticName stem n).toList :=
  fun hmem => h.noClosing (mem_stem_of_mem_syntheticName hmem (by decide))

/-- No synthetic name is the opening parenthesis of a literal. -/
theorem ne_opening (n : Nat) : syntheticName stem n ≠ "(" := by
  intro heq
  refine h.opening_notMem n ?_
  rw [heq]
  decide

/-- A synthetic name is no component of a vector literal: it counts as zero. -/
theorem component_fst (n : Nat) : (component (some (syntheticName stem n))).1 = .zero := by
  simp [component, h.noNumeral n]

end PlainStem

end FormulaChain
