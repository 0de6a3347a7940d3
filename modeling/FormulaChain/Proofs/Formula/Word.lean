import FormulaChain.Formula.Token
import FormulaChain.Proofs.Single.Literal

/-!
# Words and separators

A text that is not blank and has no separator in it is one word (`IsToken`), and words joined by
spaces are read back as the same words (`tokenize_intercalate`). Two formulas with a separator
between have the words of both (`tokenize_append_separator`). Number literals are words.
-/

namespace FormulaChain

/-- The text is one word of a formula. -/
structure IsToken (text : String) : Prop where
  /-- It is neither empty nor blank. -/
  notBlank : isWord text.toList = true
  /-- Nothing in it separates words. -/
  noSeparator : ∀ c ∈ text.toList, isSeparator c = false

instance (text : String) : Decidable (IsToken text) :=
  decidable_of_iff (isWord text.toList = true ∧ text.toList.all (!isSeparator ·) = true)
    ⟨fun h => ⟨h.1, by simpa using h.2⟩, fun h => ⟨h.notBlank, by simpa using h.noSeparator⟩⟩

section Pieces

variable {cut : Char → Bool} {piece : List Char}

theorem splitAtAll_of_forall (h : ∀ c ∈ piece, cut c = false) :
    splitAtAll cut piece = [piece] := by
  induction piece with
  | nil => rfl
  | cons c piece ih =>
    rw [List.forall_mem_cons] at h
    simp [splitAtAll, h.1, ih h.2]

theorem splitAtAll_ne_nil (text : List Char) : splitAtAll cut text ≠ [] := by
  cases text with
  | nil => simp [splitAtAll]
  | cons c text =>
    rw [splitAtAll]
    split
    · simp
    · split <;> simp

/-- What a cut separates is split apart from each other. -/
theorem splitAtAll_append (text : List Char) {separator : Char} (hs : cut separator = true)
    (rest : List Char) :
    splitAtAll cut (text ++ separator :: rest) = splitAtAll cut text ++ splitAtAll cut rest := by
  induction text with
  | nil => simp [splitAtAll, hs]
  | cons c text ih =>
    rw [List.cons_append, splitAtAll, ih, splitAtAll]
    by_cases hc : cut c = true
    · rw [if_pos hc, if_pos hc, List.cons_append]
    · rw [if_neg hc, if_neg hc]
      obtain ⟨piece, pieces, hp⟩ := List.exists_cons_of_ne_nil (splitAtAll_ne_nil text)
      rw [hp]
      rfl

/-- No piece has a cut in it. -/
theorem cut_eq_false_of_mem_splitAtAll {text : List Char} (h : piece ∈ splitAtAll cut text) :
    ∀ c ∈ piece, cut c = false := by
  induction text generalizing piece with
  | nil =>
    obtain rfl := List.mem_singleton.mp h
    exact fun c hc => by cases hc
  | cons c text ih =>
    obtain ⟨first, pieces, hp⟩ := List.exists_cons_of_ne_nil (splitAtAll_ne_nil text)
    by_cases hc : cut c = true
    · rw [splitAtAll, if_pos hc] at h
      rcases List.mem_cons.mp h with rfl | h
      · exact fun c hc => by cases hc
      · exact ih h
    · rw [splitAtAll, if_neg hc, hp] at h
      rcases List.mem_cons.mp h with rfl | h
      · rw [List.forall_mem_cons]
        exact ⟨Bool.eq_false_iff.mpr hc, ih (hp ▸ List.mem_cons_self)⟩
      · exact ih (hp ▸ List.mem_cons_of_mem _ h)

end Pieces

theorem IsToken.tokenize {text : String} (h : IsToken text) : tokenize text = [text] := by
  rw [FormulaChain.tokenize, splitAtAll_of_forall h.noSeparator]
  simp [h.notBlank]

/-- What a formula is cut into are words. -/
theorem isToken_of_mem_tokenize {formula word : String} (h : word ∈ tokenize formula) :
    IsToken word := by
  obtain ⟨piece, hpiece, rfl⟩ := List.mem_map.mp h
  obtain ⟨hmem, hword⟩ := List.mem_filter.mp hpiece
  refine ⟨by rwa [String.toList_ofList], fun c hc => ?_⟩
  rw [String.toList_ofList] at hc
  exact cut_eq_false_of_mem_splitAtAll hmem c hc

/-- A text is cut into itself exactly if it is a word. -/
theorem tokenize_eq_singleton_iff {text : String} : tokenize text = [text] ↔ IsToken text := by
  refine ⟨fun h => ?_, IsToken.tokenize⟩
  have hmem : text ∈ tokenize text := h ▸ List.mem_singleton_self text
  exact isToken_of_mem_tokenize hmem

/-- The words of two formulas with a separator between are those of the one and those of the
other. -/
theorem tokenize_append_separator {c : Char} (h : isSeparator c = true)
    (formula formula' : String) :
    tokenize (formula ++ String.singleton c ++ formula') =
      tokenize formula ++ tokenize formula' := by
  unfold tokenize
  rw [String.toList_append, String.toList_append, String.toList_singleton, List.append_assoc,
    List.singleton_append, splitAtAll_append _ h, List.filter_append, List.map_append]

/-- The words of two formulas side by side are those of the one and those of the other. -/
theorem tokenize_append (formula formula' : String) :
    tokenize (formula ++ " " ++ formula') = tokenize formula ++ tokenize formula' := by
  have hspace : (" " : String) = String.singleton ' ' := rfl
  rw [hspace, tokenize_append_separator (by decide)]

/-- **Words joined by spaces are read back.** -/
theorem tokenize_intercalate {words : List String} (h : ∀ word ∈ words, IsToken word) :
    tokenize (" ".intercalate words) = words := by
  induction words with
  | nil => decide
  | cons word words ih =>
    rw [List.forall_mem_cons] at h
    cases words with
    | nil =>
      rw [String.intercalate_singleton, h.1.tokenize]
    | cons next words =>
      rw [String.intercalate_cons_cons, tokenize_append, h.1.tokenize, ih h.2,
        List.singleton_append]

/-! ### Number literals -/

theorem isSeparator_of_isNumeralChar {c : Char} (h : isNumeralChar c = true) :
    isSeparator c = false := by
  have hnone : (' ' :: groupingMarkers).all (!isNumeralChar ·) = true := by decide
  have hmem : c ∉ ' ' :: groupingMarkers := by
    intro hmem
    have hno := List.all_eq_true.mp hnone c hmem
    simp [h] at hno
  rw [List.mem_cons, not_or] at hmem
  simp [isSeparator, hmem.1, hmem.2]

theorem isBlank_of_isNumeralChar {c : Char} (h : isNumeralChar c = true) :
    Text.isBlank c = false := by
  obtain ⟨hlow, hhigh⟩ := toNat_of_isNumeralChar h
  have houtside : ∀ range ∈ Text.blanks, range.2 < 43 ∨ 122 < range.1 := by decide
  unfold Text.isBlank Text.CodeRange.covers
  rw [List.any_eq_false]
  intro range hmem
  have := houtside range hmem
  simp only [Bool.and_eq_true, decide_eq_true_eq]
  omega

/-- A text of characters that neither separate words nor are blank is a word unless it is empty. -/
theorem isToken_of_forall {text : String} (hne : text ≠ "")
    (h : ∀ c ∈ text.toList, isSeparator c = false ∧ Text.isBlank c = false) : IsToken text := by
  constructor
  · cases hl : text.toList with
    | nil => exact absurd (String.toList_eq_nil_iff.mp hl) hne
    | cons c rest =>
      have hc : Text.isBlank c = false := (h c (hl ▸ List.mem_cons_self)).2
      simp [isWord, hc]
  · exact fun c hc => (h c hc).1

/-- A text of numeral characters and parentheses is a word unless it is empty. -/
theorem isToken_of_numeral {text : String} (hne : text ≠ "")
    (h : ∀ c ∈ text.toList, isNumeralChar c = true ∨ c = '(' ∨ c = ')') : IsToken text := by
  refine isToken_of_forall hne fun c hc => ?_
  rcases h c hc with hn | rfl | rfl
  · exact ⟨isSeparator_of_isNumeralChar hn, isBlank_of_isNumeralChar hn⟩
  · decide
  · decide

end FormulaChain
