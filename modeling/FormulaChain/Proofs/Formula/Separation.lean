import FormulaChain.Proofs.Formula.Word

/-!
# Cutting a formula into words

The words of a formula by its plain description are its words (`tokenize_eq_tokenizeBySpaces`): to
cut at spaces and brackets is to turn brackets into spaces and cut at these. The other way round,
words that stand in any gaps of separators are the words that are read (`tokenize_spread`).
-/

namespace FormulaChain

/-! ### The plain description -/

section Pieces

variable {cut cut' : Char → Bool}

/-- Cutting at a class of characters is splitting a list at it. -/
theorem splitAtAll_eq_splitOnP (cut : Char → Bool) (text : List Char) :
    splitAtAll cut text = text.splitOnP cut := by
  induction text with
  | nil => rfl
  | cons c text ih =>
    have hne : splitAtAll cut text ≠ [] := splitAtAll_ne_nil text
    obtain ⟨piece, pieces, hp⟩ := List.exists_cons_of_ne_nil hne
    rw [splitAtAll, List.splitOnP_cons_eq_if_modifyHead, ← ih, hp]
    rfl

/-- Where a function only turns cuts into cuts, the pieces stay the same. -/
theorem splitAtAll_map {f : Char → Char} (hcut : ∀ c, cut' (f c) = cut c)
    (hkeep : ∀ c, cut c = false → f c = c) (text : List Char) :
    splitAtAll cut' (text.map f) = splitAtAll cut text := by
  induction text with
  | nil => rfl
  | cons c text ih =>
    rw [List.map_cons, splitAtAll, splitAtAll, ih, hcut]
    cases hc : cut c with
    | true => rfl
    | false => rw [hkeep c hc]

end Pieces

/-- **The words of a formula are those of its plain description.** -/
theorem tokenize_eq_tokenizeBySpaces (formula : String) :
    tokenize formula = tokenizeBySpaces formula := by
  have hcut : ∀ c, decide ((if groupingMarkers.contains c then ' ' else c) = ' ') =
      isSeparator c := by
    intro c
    by_cases hc : c ∈ groupingMarkers
    · simp [isSeparator, hc]
    · simp [isSeparator, hc]
  have hkeep : ∀ c, isSeparator c = false →
      (if groupingMarkers.contains c then ' ' else c) = c := by
    intro c hc
    have hmarker : c ∉ groupingMarkers := fun hmem => by simp [isSeparator, hmem] at hc
    simp [hmarker]
  have hpieces : splitAtAll (· = ' ') (formula.toList.map fun c =>
      if groupingMarkers.contains c then ' ' else c) = splitAtAll isSeparator formula.toList :=
    splitAtAll_map hcut hkeep formula.toList
  exact congrArg (fun pieces => (pieces.filter isWord).map String.ofList) hpieces.symm

/-- The plain description in the words of lists. -/
theorem tokenizeBySpaces_eq (formula : String) :
    tokenizeBySpaces formula =
      (((formula.toList.map fun c => if c ∈ groupingMarkers then ' ' else c).splitOn ' ').filter
        isWord).map String.ofList := by
  simp only [tokenizeBySpaces, splitAtAll_eq_splitOnP, List.contains_iff_mem]
  rfl

/-! ### Words in gaps -/

/-- A text of separators only; it may be empty. -/
def IsGap (gap : String) : Prop := ∀ c ∈ gap.toList, isSeparator c = true

instance (gap : String) : Decidable (IsGap gap) :=
  decidable_of_iff (gap.toList.all isSeparator = true) List.all_eq_true

/-- Words with gaps around them: each stands behind its own gap, and the closing gap behind all. -/
def spread (gapped : List (String × String)) (closing : String) : String :=
  gapped.foldr (fun entry rest => entry.1 ++ entry.2 ++ rest) closing

/-- A gap has no words. -/
theorem tokenize_gap_append {gap : String} (h : IsGap gap) (text : String) :
    tokenize (gap ++ text) = tokenize text := by
  have hlist (inner : List Char) (hinner : ∀ c ∈ inner, isSeparator c = true) (rest : List Char) :
      (splitAtAll isSeparator (inner ++ rest)).filter isWord =
        (splitAtAll isSeparator rest).filter isWord := by
    induction inner with
    | nil => rfl
    | cons c inner ih =>
      obtain ⟨hc, hinner⟩ := List.forall_mem_cons.mp hinner
      rw [List.cons_append, splitAtAll, if_pos hc, List.filter_cons_of_neg (by decide), ih hinner]
  rw [tokenize, String.toList_append, hlist _ h]
  rfl

theorem tokenize_gap {gap : String} (h : IsGap gap) : tokenize gap = [] := by
  have happend := tokenize_gap_append h ""
  rw [String.append_empty] at happend
  rw [happend]
  rfl

/-- A gap that is not empty ends the word before it. -/
theorem tokenize_append_gap (word : String) {gap : String} (h : IsGap gap) (hne : gap ≠ "")
    (rest : String) :
    tokenize (word ++ (gap ++ rest)) = tokenize word ++ tokenize (gap ++ rest) := by
  obtain ⟨c, inner, hlist⟩ := List.exists_cons_of_ne_nil fun hnil =>
    hne (String.toList_eq_nil_iff.mp hnil)
  have hgap : gap = String.singleton c ++ String.ofList inner := by
    rw [← String.toList_inj, hlist]
    simp
  have hc : isSeparator c = true := h c (by simp [hlist])
  have hinner : IsGap (String.ofList inner) := fun d hd => by
    rw [String.toList_ofList] at hd
    exact h d (by simp [hlist, hd])
  rw [tokenize_gap_append h, hgap, String.append_assoc, ← String.append_assoc,
    tokenize_append_separator hc, tokenize_gap_append hinner]

/-- **Words in gaps are read back**, whatever separators the gaps are made of, if no two words
stand without a gap between them. -/
theorem tokenize_spread {gapped : List (String × String)} {closing : String}
    (hgaps : ∀ entry ∈ gapped, IsGap entry.1) (hwords : ∀ entry ∈ gapped, IsToken entry.2)
    (hapart : ∀ entry ∈ gapped.tail, entry.1 ≠ "") (hclosing : IsGap closing) :
    tokenize (spread gapped closing) = gapped.map (·.2) := by
  induction gapped with
  | nil => exact tokenize_gap hclosing
  | cons entry gapped ih =>
    obtain ⟨gap, word⟩ := entry
    obtain ⟨hgap, hgaps⟩ := List.forall_mem_cons.mp hgaps
    obtain ⟨hword, hwords⟩ := List.forall_mem_cons.mp hwords
    have hrest := ih hgaps hwords fun entry hentry => hapart entry (List.mem_of_mem_tail hentry)
    have hends : tokenize (word ++ spread gapped closing) =
        tokenize word ++ tokenize (spread gapped closing) := by
      cases gapped with
      | nil =>
        -- behind the last word stands the closing gap, which may be empty
        by_cases hempty : closing = ""
        · show tokenize (word ++ closing) = tokenize word ++ tokenize closing
          rw [tokenize_gap hclosing, hempty, String.append_empty, List.append_nil]
        · have happend := tokenize_append_gap word hclosing hempty ""
          rwa [String.append_empty] at happend
      | cons next gapped =>
        have hnext : next.1 ≠ "" := hapart next List.mem_cons_self
        have happend := tokenize_append_gap word (hgaps next List.mem_cons_self) hnext
          (next.2 ++ spread gapped closing)
        have hassoc : next.1 ++ next.2 ++ spread gapped closing =
            next.1 ++ (next.2 ++ spread gapped closing) := String.append_assoc
        rwa [← hassoc] at happend
    calc tokenize (spread ((gap, word) :: gapped) closing)
        = tokenize (gap ++ (word ++ spread gapped closing)) := by rw [← String.append_assoc]; rfl
      _ = tokenize (word ++ spread gapped closing) := tokenize_gap_append hgap _
      _ = tokenize word ++ tokenize (spread gapped closing) := hends
      _ = word :: gapped.map (·.2) := by rw [hword.tokenize, hrest]; rfl

end FormulaChain
