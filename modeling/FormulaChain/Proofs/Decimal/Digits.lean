import FormulaChain.Decimal.Numeral
import Mathlib.Algebra.Ring.Nat
import Mathlib.Data.List.TakeWhile

/-!
# Runs of digits

The digits that a whole number is written with are read as that number. Zeros behind digits multiply
what they are read as by powers of ten, and zeros before them do not matter.
-/

namespace FormulaChain

/-- A run of digits that is not empty. -/
structure IsRun (digits : List Char) : Prop where
  /-- There is a digit. -/
  ne_nil : digits ≠ []
  /-- There is nothing else. -/
  isDigit : ∀ c ∈ digits, c.isDigit = true

namespace IsRun

variable {digits : List Char}

theorem takeWhile (h : IsRun digits) : digits.takeWhile Char.isDigit = digits :=
  List.takeWhile_eq_self_iff.mpr h.isDigit

theorem dropWhile (h : IsRun digits) : digits.dropWhile Char.isDigit = [] :=
  List.dropWhile_eq_nil_iff.mpr h.isDigit

/-- Behind nothing but digits they are all one run. -/
theorem append (h : IsRun digits) {text : List Char} (ht : text.dropWhile Char.isDigit = []) :
    IsRun (text ++ digits) :=
  ⟨List.append_ne_nil_of_right_ne_nil _ h.ne_nil,
    List.forall_mem_append.mpr ⟨List.dropWhile_eq_nil_iff.mp ht, h.isDigit⟩⟩

/-- No sign begins it. -/
theorem exists_cons (h : IsRun digits) : ∃ c rest, digits = c :: rest ∧ c ≠ '-' ∧ c ≠ '+' := by
  obtain ⟨c, rest, rfl⟩ := List.exists_cons_of_ne_nil h.ne_nil
  have hc := h.isDigit c List.mem_cons_self
  refine ⟨c, rest, rfl, ?_, ?_⟩
  · rintro rfl
    exact absurd hc (by decide)
  · rintro rfl
    exact absurd hc (by decide)

end IsRun

/-! ### What digits are read as -/

theorem isDigit_of_mem_toDigits {n : Nat} : ∀ c ∈ Nat.toDigits 10 n, c.isDigit = true :=
  fun _ => Nat.isDigit_of_mem_toDigits (by decide) (by decide)

theorem isRun_toDigits (n : Nat) : IsRun (Nat.toDigits 10 n) :=
  ⟨Nat.toDigits_ne_nil, isDigit_of_mem_toDigits⟩

theorem digitsValue_toDigits (n : Nat) : digitsValue (Nat.toDigits 10 n) = n :=
  Nat.ofDigitChars_ten_toDigits

theorem isDigit_of_mem_replicate {n : Nat} : ∀ c ∈ List.replicate n '0', c.isDigit = true := by
  intro c hc
  rw [List.eq_of_mem_replicate hc]
  rfl

theorem digitsValue_append (digits digits' : List Char) :
    digitsValue (digits ++ digits') = Nat.ofDigitChars 10 digits' (digitsValue digits) :=
  Nat.ofDigitChars_append ..

/-- Zeros behind digits. -/
theorem digitsValue_append_zeros (digits : List Char) (n : Nat) :
    digitsValue (digits ++ List.replicate n '0') = digitsValue digits * 10 ^ n := by
  rw [digitsValue_append, Nat.ofDigitChars_replicate_zero, Nat.mul_comm]

/-- Zeros before digits. -/
theorem digitsValue_zeros_append (n : Nat) (digits : List Char) :
    digitsValue (List.replicate n '0' ++ digits) = digitsValue digits := by
  have hzeros : digitsValue (List.replicate n '0') = 0 :=
    Nat.ofDigitChars_replicate_zero.trans (Nat.mul_zero _)
  rw [digitsValue_append, hzeros]
  rfl

end FormulaChain
