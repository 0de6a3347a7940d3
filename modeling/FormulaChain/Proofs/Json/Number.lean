import FormulaChain.Json.Reader
import FormulaChain.Proofs.Decimal.Digits
import FormulaChain.Proofs.Text.Run

/-!
# Numbers are read back

A number that keeps to the grammar is read from its text (`read?_chars`). Such a text is made of the
characters by which a document tells that it holds a number. Whole numbers of 64 bits are read from
their digits (`natural?_toDigits`).
-/

namespace FormulaChain.Json

namespace Number

/-! ### The text of a number -/

/-- The text of a fraction. -/
def fractionChars : List Char → List Char
  | [] => []
  | digits => '.' :: digits

/-- The text of an exponent. -/
def exponentChars : Option (Bool × List Char) → List Char
  | none => []
  | some (negative, digits) => 'e' :: (if negative then '-' else '+') :: digits

/-- The text of a number without its sign. -/
def unsignedChars (n : Number) : List Char :=
  n.whole ++ (fractionChars n.fraction ++ exponentChars n.exponent)

/-- The text of a number. -/
def chars (n : Number) : List Char :=
  if n.negative then '-' :: n.unsignedChars else n.unsignedChars

/-- A number that keeps to the grammar. -/
structure Proper (n : Number) : Prop where
  /-- The whole part has digits only. -/
  whole : ∀ c ∈ n.whole, c.isDigit = true
  /-- There is a whole part. -/
  nonempty : n.whole ≠ []
  /-- Zero has no other digit behind it. -/
  leading : n.whole.head? = some '0' → n.whole = ['0']
  /-- The fraction has digits only. -/
  fraction : ∀ c ∈ n.fraction, c.isDigit = true
  /-- An exponent has digits, and nothing else. -/
  exponent : ∀ e ∈ n.exponent, e.2 ≠ [] ∧ ∀ c ∈ e.2, c.isDigit = true

variable {n : Number}

theorem head?_exponentChars {c : Char} {e : Option (Bool × List Char)}
    (h : c ∈ (exponentChars e).head?) : c = 'e' := by
  cases e with
  | none => cases h
  | some e => exact (Option.some.inj h).symm

theorem readExponent?_chars (h : n.Proper) :
    readExponent? (exponentChars n.exponent) = some n.exponent := by
  cases he : n.exponent with
  | none => rfl
  | some e =>
    obtain ⟨negative, digits⟩ := e
    obtain ⟨hne, hdigits⟩ := h.exponent _ he
    have hall : digits.all Char.isDigit = true := List.all_eq_true.mpr hdigits
    cases negative with
    | true => simp [exponentChars, readExponent?, hne, hall]
    | false => simp [exponentChars, readExponent?, hne, hall]

theorem readFraction?_chars (h : n.Proper) :
    readFraction? (fractionChars n.fraction ++ exponentChars n.exponent) =
      some (n.fraction, n.exponent) := by
  have hexp := readExponent?_chars h
  cases hf : n.fraction with
  | nil =>
    rw [fractionChars, List.nil_append, readFraction?, hexp]
    · rfl
    · intro rest heq
      have hmark := head?_exponentChars (e := n.exponent) (c := '.') (by rw [heq]; rfl)
      exact absurd hmark (by decide)
  | cons d digits =>
    have hrun : ∀ c ∈ d :: digits, c.isDigit = true := fun c hc => h.fraction c (hf ▸ hc)
    have hend : ∀ c ∈ (exponentChars n.exponent).head?, c.isDigit = false := by
      intro c hc
      rw [head?_exponentChars hc]
      rfl
    rw [fractionChars, List.cons_append, readFraction?]
    · rw [Text.takeWhile_append_of_head hrun hend, Text.dropWhile_append_of_head hrun hend, hexp,
        if_neg (List.cons_ne_nil _ _)]
      rfl
    · exact List.cons_ne_nil _ _

theorem isDigit_head?_fractionChars (n : Number) :
    ∀ c ∈ (fractionChars n.fraction ++ exponentChars n.exponent).head?, c.isDigit = false := by
  intro c hc
  cases hf : n.fraction with
  | nil =>
    rw [hf, fractionChars, List.nil_append] at hc
    rw [head?_exponentChars hc]
    rfl
  | cons d digits =>
    rw [hf, fractionChars] at hc
    · obtain rfl := Option.some.inj hc
      rfl
    · exact List.cons_ne_nil _ _

theorem readUnsigned?_chars (h : n.Proper) (negative : Bool) :
    readUnsigned? negative n.unsignedChars = some { n with negative := negative } := by
  have hend := isDigit_head?_fractionChars n
  rw [unsignedChars, readUnsigned?]
  dsimp only
  rw [Text.takeWhile_append_of_head h.whole hend, Text.dropWhile_append_of_head h.whole hend,
    readFraction?_chars h, if_neg]
  · rfl
  · rintro (hempty | ⟨hzero, hmore⟩)
    · exact h.nonempty hempty
    · exact hmore (h.leading hzero)

theorem read?_unsignedChars (h : n.Proper) :
    read? n.unsignedChars = some { n with negative := false } := by
  rw [read?]
  · exact readUnsigned?_chars h false
  · intro text heq
    have hhead : n.whole.head? = some '-' := by
      rw [unsignedChars] at heq
      cases hw : n.whole with
      | nil => exact absurd hw h.nonempty
      | cons c rest =>
        rw [hw] at heq
        exact congrArg some (List.cons.inj heq).1
    have hdigit := h.whole '-' (List.mem_of_head? hhead)
    cases hdigit

/-- **A number is read from its text.** -/
theorem read?_chars (h : n.Proper) : read? n.chars = some n := by
  obtain ⟨negative, whole, fraction, exponent⟩ := n
  cases negative with
  | true => exact readUnsigned?_chars h true
  | false => exact read?_unsignedChars h

theorem isNumeric_of_isDigit {c : Char} (h : c.isDigit = true) : isNumeric c = true := by
  simp [isNumeric, h]

/-- The text of a number is made of the characters of numbers. -/
theorem isNumeric_of_mem_chars (h : n.Proper) : ∀ c ∈ n.chars, isNumeric c = true := by
  have hfraction : ∀ c ∈ fractionChars n.fraction, isNumeric c = true := by
    intro c hc
    cases hf : n.fraction with
    | nil => rw [hf] at hc; cases hc
    | cons d digits =>
      rw [hf, fractionChars] at hc
      · rcases List.mem_cons.mp hc with rfl | hc
        · rfl
        · exact isNumeric_of_isDigit (h.fraction c (hf ▸ hc))
      · exact List.cons_ne_nil _ _
  have hexponent : ∀ c ∈ exponentChars n.exponent, isNumeric c = true := by
    intro c hc
    cases he : n.exponent with
    | none => rw [he] at hc; cases hc
    | some e =>
      rw [he] at hc
      rcases List.mem_cons.mp hc with rfl | hc
      · rfl
      · rcases List.mem_cons.mp hc with rfl | hc
        · cases e.1 <;> rfl
        · exact isNumeric_of_isDigit ((h.exponent e he).2 c hc)
  have hunsigned : ∀ c ∈ n.unsignedChars, isNumeric c = true := by
    intro c hc
    rcases List.mem_append.mp hc with hc | hc
    · exact isNumeric_of_isDigit (h.whole c hc)
    · exact (List.mem_append.mp hc).elim (hfraction c) (hexponent c)
  intro c hc
  unfold chars at hc
  split at hc
  · rcases List.mem_cons.mp hc with rfl | hc
    · rfl
    · exact hunsigned c hc
  · exact hunsigned c hc

/-! ### Digits -/

/-- Digits do not make a number less. -/
theorem le_ofDigitChars (digits : List Char) (n : Nat) : n ≤ Nat.ofDigitChars 10 digits n := by
  induction digits generalizing n with
  | nil => exact Nat.le_refl n
  | cons c digits ih =>
    rw [Nat.ofDigitChars_cons]
    exact Nat.le_trans (by omega) (ih _)

/-- Digits of a whole number of 64 bits are all taken. -/
theorem takeDigits_of_lt {digits : List Char} {n : Nat}
    (h : Nat.ofDigitChars 10 digits n < wordBound) :
    takeDigits n digits = (Nat.ofDigitChars 10 digits n, []) := by
  induction digits generalizing n with
  | nil => rfl
  | cons c digits ih =>
    rw [Nat.ofDigitChars_cons] at h ⊢
    rw [takeDigits, if_pos (Nat.lt_of_le_of_lt (le_ofDigitChars digits _) h), ih h]

/-- The first digit of a positive number is not zero. -/
theorem head?_toDigits_ne {n : Nat} (h : 0 < n) : (Nat.toDigits 10 n).head? ≠ some '0' := by
  induction n using Nat.strong_induction_on with
  | _ n ih =>
    rcases Nat.lt_or_ge n 10 with hlt | hge
    · rw [Nat.toDigits_of_lt_base hlt]
      have hdigit : ∀ d < 10, 0 < d → ¬ d.digitChar = '0' := by decide
      exact fun heq => hdigit n hlt h (Option.some.inj heq)
    · have hfirst := ih (n / 10) (by omega) (by omega)
      rw [Nat.toDigits_of_base_le (by decide) hge]
      cases hdigits : Nat.toDigits 10 (n / 10) with
      | nil => exact absurd hdigits Nat.toDigits_ne_nil
      | cons d digits =>
        rw [hdigits] at hfirst
        exact hfirst

/-- The digits of a number, as they stand in a whole part. -/
theorem toDigits_leading {n : Nat} (h : (Nat.toDigits 10 n).head? = some '0') :
    Nat.toDigits 10 n = ['0'] := by
  rcases Nat.eq_zero_or_pos n with rfl | hpos
  · rfl
  · exact absurd h (head?_toDigits_ne hpos)

/-- A whole number. -/
def ofNatural (value : Nat) : Number := ⟨false, Nat.toDigits 10 value, [], none⟩

theorem proper_ofNatural (value : Nat) : (ofNatural value).Proper where
  whole := isDigit_of_mem_toDigits
  nonempty := Nat.toDigits_ne_nil
  leading := toDigits_leading
  fraction := fun _ h => by cases h
  exponent := fun _ h => by cases h

theorem chars_ofNatural (value : Nat) : (ofNatural value).chars = Nat.toDigits 10 value :=
  List.append_nil _

/-- A whole number of 64 bits is read from its digits. -/
theorem natural?_toDigits {value : Nat} (h : value < wordBound) :
    (read? (Nat.toDigits 10 value)).bind (·.natural?) = some value := by
  have hvalue : Nat.ofDigitChars 10 (Nat.toDigits 10 value) 0 = value :=
    Nat.ofDigitChars_ten_toDigits
  have htake : takeDigits 0 (Nat.toDigits 10 value) = _ := takeDigits_of_lt (by rwa [hvalue])
  rw [← chars_ofNatural, read?_chars (proper_ofNatural value)]
  simp [natural?, word?, ofNatural, htake, hvalue]

end Number

end FormulaChain.Json
