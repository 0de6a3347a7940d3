import FormulaChain.Proofs.Decimal.Digits
import FormulaChain.Proofs.Single.Literal

/-!
# Digits behind a text

Whether a text with digits behind it is a number does not depend on the digits, nor on how many
there are as long as there is one: they continue the digits before the point, those behind it, or
those of an exponent, and the words for infinity and "not a number" end in letters
(`isSome_ofChars?_append`).
-/

namespace FormulaChain

/-- Behind a text that does not end in its first run of digits, more digits leave that run as it
is. -/
theorem takeWhile_isDigit_append {text : List Char} (ht : text.dropWhile Char.isDigit ≠ [])
    (digits : List Char) :
    (text ++ digits).takeWhile Char.isDigit = text.takeWhile Char.isDigit := by
  rw [List.takeWhile_append, if_neg]
  intro hlength
  have hsplit := congrArg List.length
    (List.takeWhile_append_dropWhile (p := Char.isDigit) (l := text))
  rw [List.length_append, hlength] at hsplit
  exact ht (List.length_eq_zero_iff.mp (by omega))

theorem dropWhile_isDigit_append {text : List Char} (ht : text.dropWhile Char.isDigit ≠ [])
    (digits : List Char) :
    (text ++ digits).dropWhile Char.isDigit = text.dropWhile Char.isDigit ++ digits := by
  rw [List.dropWhile_append, if_neg]
  simpa using ht

namespace Decimal

variable {digits digits' : List Char}

/-- The text behind an optional sign. -/
def behindSign : List Char → List Char
  | '-' :: rest => rest
  | '+' :: rest => rest
  | rest => rest

theorem behindSign_of_isRun (h : IsRun digits) : behindSign digits = digits := by
  obtain ⟨c, rest, rfl, hminus, hplus⟩ := h.exists_cons
  simp [behindSign, hminus, hplus]

theorem behindSign_append (c : Char) (rest digits : List Char) :
    behindSign (c :: rest ++ digits) = behindSign (c :: rest) ++ digits := by
  by_cases hminus : c = '-'
  · subst hminus
    rfl
  · by_cases hplus : c = '+'
    · subst hplus
      rfl
    · simp [behindSign, hminus, hplus]

theorem isSome_readExponent (mark : Char) (rest : List Char) :
    (readExponent (mark :: rest)).isSome = true ↔
      (mark = 'e' ∨ mark = 'E') ∧ behindSign rest ≠ [] ∧
        ∀ c ∈ behindSign rest, c.isDigit = true := by
  unfold readExponent behindSign
  by_cases hmark : mark = 'e' ∨ mark = 'E'
  · simp only [if_pos hmark]
    split <;> simp [hmark]
  · simp [hmark]

/-- Which digits stand at the end of an exponent does not matter. -/
theorem isSome_readExponent_append (h : IsRun digits) (mark : Char) (rest : List Char) :
    (readExponent (mark :: rest ++ digits)).isSome = true ↔
      (mark = 'e' ∨ mark = 'E') ∧ ∀ c ∈ behindSign rest, c.isDigit = true := by
  rw [List.cons_append, isSome_readExponent]
  cases rest with
  | nil =>
    rw [List.nil_append, behindSign_of_isRun h]
    exact ⟨fun hm => ⟨hm.1, fun c hc => by cases hc⟩, fun hm => ⟨hm.1, h.ne_nil, h.isDigit⟩⟩
  | cons c rest =>
    rw [behindSign_append, List.forall_mem_append]
    exact ⟨fun hm => ⟨hm.1, hm.2.2.1⟩, fun hm =>
      ⟨hm.1, List.append_ne_nil_of_right_ne_nil _ h.ne_nil, hm.2, h.isDigit⟩⟩

/-! ### Numerals -/

theorem isSome_read?_of_isRun (h : IsRun digits) : (read? digits).isSome = true := by
  simp [read?, h.takeWhile, h.dropWhile, h.ne_nil, readExponent]

/-- A numeral with a point has a digit before or behind the point, and nothing but an exponent
behind its digits. -/
theorem isSome_read?_of_point {text rest : List Char}
    (ht : text.dropWhile Char.isDigit = '.' :: rest) :
    (read? text).isSome = true ↔
      text.takeWhile Char.isDigit ++ rest.takeWhile Char.isDigit ≠ [] ∧
        (readExponent (rest.dropWhile Char.isDigit)).isSome = true := by
  by_cases hdigits : text.takeWhile Char.isDigit ++ rest.takeWhile Char.isDigit = []
  · simp [read?, ht, hdigits]
  · simp [read?, ht, hdigits]

theorem isSome_read?_of_noPoint {text rest : List Char}
    (ht : text.dropWhile Char.isDigit = rest) (hpoint : rest.head? ≠ some '.') :
    (read? text).isSome = true ↔
      text.takeWhile Char.isDigit ≠ [] ∧ (readExponent rest).isSome = true := by
  have hdots : ∀ more, rest ≠ '.' :: more := by
    rintro more rfl
    exact hpoint rfl
  by_cases hdigits : text.takeWhile Char.isDigit = []
  · simp [read?, ht, hdigits]
  · simp [read?, ht, hdigits]

/-- Which digits stand at the end of a numeral does not matter. -/
theorem isSome_read?_append (h : IsRun digits) (h' : IsRun digits') (text : List Char) :
    (read? (text ++ digits)).isSome = true ↔ (read? (text ++ digits')).isSome = true := by
  cases ht : text.dropWhile Char.isDigit with
  | nil =>
    exact iff_of_true (isSome_read?_of_isRun (h.append ht)) (isSome_read?_of_isRun (h'.append ht))
  | cons c after =>
    have hne : text.dropWhile Char.isDigit ≠ [] := by simp [ht]
    have hdrop (more : List Char) :
        (text ++ more).dropWhile Char.isDigit = c :: (after ++ more) := by
      rw [dropWhile_isDigit_append hne, ht, List.cons_append]
    by_cases hc : c = '.'
    · subst hc
      rw [isSome_read?_of_point (hdrop digits), isSome_read?_of_point (hdrop digits'),
        takeWhile_isDigit_append hne, takeWhile_isDigit_append hne]
      cases hafter : after.dropWhile Char.isDigit with
      | nil =>
        have hrun := h.append hafter
        have hrun' := h'.append hafter
        simp [hrun.dropWhile, hrun'.dropWhile, hrun.takeWhile, hrun'.takeWhile, h.ne_nil, h'.ne_nil]
      | cons mark rest =>
        have hne' : after.dropWhile Char.isDigit ≠ [] := by simp [hafter]
        rw [takeWhile_isDigit_append hne', takeWhile_isDigit_append hne',
          dropWhile_isDigit_append hne', dropWhile_isDigit_append hne', hafter,
          isSome_readExponent_append h, isSome_readExponent_append h']
    · have hpoint (more : List Char) : (c :: (after ++ more)).head? ≠ some '.' := by simpa using hc
      rw [isSome_read?_of_noPoint (hdrop digits) (hpoint digits),
        isSome_read?_of_noPoint (hdrop digits') (hpoint digits'),
        takeWhile_isDigit_append hne, takeWhile_isDigit_append hne, ← List.cons_append,
        ← List.cons_append, isSome_readExponent_append h, isSome_readExponent_append h']

end Decimal

namespace Single

variable {digits digits' : List Char}

theorem isLower_toLower_of_isDigit {c : Char} (h : c.isDigit = true) :
    c.toLower.isLower = false := by
  rw [Char.isLower_toLower_eq_isAlpha]
  simp only [Char.isDigit, Char.isAlpha, Char.isUpper, Char.isLower, Bool.and_eq_true,
    decide_eq_true_eq, ge_iff_le, UInt32.le_iff_toNat_le, Bool.or_eq_false_iff,
    Bool.and_eq_false_iff, decide_eq_false_iff_not] at h ⊢
  obtain ⟨-, hhigh⟩ := h
  simp at hhigh ⊢
  omega

/-- The words for the numbers that no numeral writes consist of letters. -/
theorem ofWord?_eq_none_of_mem {text : List Char} {c : Char} (hc : c ∈ text)
    (hdigit : c.isDigit = true) (negative : Bool) : ofWord? negative text = none := by
  have hmem : c.toLower ∈ text.map Char.toLower := List.mem_map_of_mem hc
  have hne (word : List Char) (hword : word.all Char.isLower = true) :
      text.map Char.toLower ≠ word := by
    rintro rfl
    have hlower := List.all_eq_true.mp hword _ hmem
    rw [isLower_toLower_of_isDigit hdigit] at hlower
    cases hlower
  rw [ofWord?, if_neg (not_or.mpr ⟨hne _ (by decide), hne _ (by decide)⟩),
    if_neg (hne _ (by decide))]

theorem ofWord?_append (h : IsRun digits) (negative : Bool) (text : List Char) :
    ofWord? negative (text ++ digits) = none := by
  obtain ⟨c, hc⟩ := List.exists_mem_of_ne_nil _ h.ne_nil
  exact ofWord?_eq_none_of_mem (List.mem_append_right _ hc) (h.isDigit c hc) negative

theorem isSome_ofUnsigned?_append (h : IsRun digits) (h' : IsRun digits') (negative : Bool)
    (text : List Char) :
    (ofUnsigned? negative (text ++ digits)).isSome = true ↔
      (ofUnsigned? negative (text ++ digits')).isSome = true := by
  simp only [ofUnsigned?, ofWord?_append h, ofWord?_append h', Option.none_or, Option.isSome_map]
  exact Decimal.isSome_read?_append h h' text

theorem ofChars?_of_unsigned {text : List Char} (hminus : text.head? ≠ some '-')
    (hplus : text.head? ≠ some '+') : ofChars? text = ofUnsigned? false text := by
  unfold ofChars?
  split
  · exact absurd rfl hminus
  · exact absurd rfl hplus
  · rfl

/-- **Whether a text with digits behind it is a number does not depend on the digits.** -/
theorem isSome_ofChars?_append (h : IsRun digits) (h' : IsRun digits') (text : List Char) :
    (ofChars? (text ++ digits)).isSome = true ↔ (ofChars? (text ++ digits')).isSome = true := by
  cases text with
  | nil =>
    obtain ⟨c, rest, rfl, hminus, hplus⟩ := h.exists_cons
    obtain ⟨c', rest', rfl, hminus', hplus'⟩ := h'.exists_cons
    rw [ofChars?_of_unsigned (by simpa using hminus) (by simpa using hplus),
      ofChars?_of_unsigned (by simpa using hminus') (by simpa using hplus')]
    exact isSome_ofUnsigned?_append h h' false []
  | cons c text =>
    by_cases hminus : c = '-'
    · subst hminus
      exact isSome_ofUnsigned?_append h h' true text
    · by_cases hplus : c = '+'
      · subst hplus
        exact isSome_ofUnsigned?_append h h' false text
      · rw [ofChars?_of_unsigned (by simpa using hminus) (by simpa using hplus),
          ofChars?_of_unsigned (by simpa using hminus) (by simpa using hplus)]
        exact isSome_ofUnsigned?_append h h' false (c :: text)

end Single

end FormulaChain
