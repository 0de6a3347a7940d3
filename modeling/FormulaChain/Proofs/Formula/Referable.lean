import FormulaChain.Formula.Settings
import FormulaChain.Proofs.Formula.Stack
import FormulaChain.Proofs.Formula.Word
import FormulaChain.Proofs.Single.Digits

/-!
# Stems that can be referred to

A valid stem is not empty and holds no blank. Its names are single words exactly if no grouping
bracket stands in it (`isToken_syntheticName_iff`), and each of them is read as a name exactly if
the stem is `Referable`: it does not end in a closing parenthesis, and neither the stem nor the stem
with a one behind it is a numeral. The other names need no look, since it does not matter which
digits stand behind the stem.
-/

namespace FormulaChain

variable {stem : String}

theorem isRun_numberSuffix (n : Nat) : IsRun (numberSuffix (n + 1)) :=
  ⟨Nat.toDigits_ne_nil, fun _ => isDigit_of_mem_numberSuffix⟩

/-- All names behind the first are numerals, or none is. -/
theorem isSome_ofText?_syntheticName_succ (stem : String) (n : Nat) :
    (Single.ofText? (syntheticName stem (n + 1))).isSome = true ↔
      (Single.ofText? (stem ++ "1")).isSome = true := by
  have hone : stem ++ "1" = syntheticName stem 1 := rfl
  rw [hone, Single.ofText?, Single.ofText?, toList_syntheticName, toList_syntheticName]
  exact Single.isSome_ofChars?_append (isRun_numberSuffix n) (isRun_numberSuffix 0) stem.toList

/-- No name is a numeral if the stem is none, nor the stem with a one behind it. -/
theorem forall_ofText?_syntheticName_iff :
    (∀ n, Single.ofText? (syntheticName stem n) = none) ↔
      Single.ofText? stem = none ∧ Single.ofText? (stem ++ "1") = none := by
  have hsucc (n : Nat) : Single.ofText? (syntheticName stem (n + 1)) = none ↔
      Single.ofText? (stem ++ "1") = none := by
    rw [← Option.not_isSome_iff_eq_none, ← Option.not_isSome_iff_eq_none]
    exact not_congr (isSome_ofText?_syntheticName_succ stem n)
  constructor
  · exact fun h => ⟨h 0, (hsucc 0).mp (h 1)⟩
  · rintro ⟨hzero, hone⟩ (_ | n)
    · exact hzero
    · exact (hsucc n).mpr hone

/-- A stem whose names are all read as names where an operator takes them. -/
structure Referable (stem : String) : Prop where
  /-- The stem does not end a vector literal. -/
  noClosing : withoutClosing? stem = none
  /-- The stem is no numeral. -/
  noNumeral : Single.ofText? stem = none
  /-- It does not become one with digits behind it. -/
  noNumeralOne : Single.ofText? (stem ++ "1") = none

instance (stem : String) : Decidable (Referable stem) :=
  decidable_of_iff (withoutClosing? stem = none ∧ Single.ofText? stem = none ∧
      Single.ofText? (stem ++ "1") = none)
    ⟨fun ⟨h₁, h₂, h₃⟩ => ⟨h₁, h₂, h₃⟩, fun h => ⟨h.noClosing, h.noNumeral, h.noNumeralOne⟩⟩

/-- **Which stems have names that are read as names**: those for which this holds of the first two
names. -/
theorem referable_iff : Referable stem ↔ ∀ n, GivesBack stem (syntheticName stem n) := by
  constructor
  · intro h n
    exact ⟨withoutClosing?_syntheticName h.noClosing n,
      forall_ofText?_syntheticName_iff.mpr ⟨h.noNumeral, h.noNumeralOne⟩ n,
      hasStem_syntheticName stem n⟩
  · intro h
    obtain ⟨hzero, hone⟩ := forall_ofText?_syntheticName_iff.mp fun n => (h n).2.1
    exact ⟨(h 0).1, hzero, hone⟩

/-- What follows an opening parenthesis in a name is a name of what follows it in the stem. -/
theorem withoutOpening?_syntheticName (stem : String) (n : Nat) :
    withoutOpening? (syntheticName stem n) = (withoutOpening? stem).map (syntheticName · n) := by
  unfold withoutOpening?
  rw [toList_syntheticName]
  cases hs : stem.toList with
  | nil =>
    cases hn : numberSuffix n with
    | nil => rfl
    | cons c rest =>
      have hc : c ≠ '(' := by
        rintro rfl
        have hdigit : ('(' : Char).isDigit = true :=
          isDigit_of_mem_numberSuffix (n := n) (by rw [hn]; exact List.mem_cons_self)
        exact absurd hdigit (by decide)
      simp [hc]
  | cons c rest =>
    by_cases hc : c = '('
    · subst hc
      have hlist : (syntheticName (String.ofList rest) n).toList = rest ++ numberSuffix n := by
        rw [toList_syntheticName, String.toList_ofList]
      simp [← hlist]
    · simp [hc]

/-- A stem whose names are moreover no parts of vector literals: if it begins with an opening
parenthesis, that is not the parenthesis of a literal, nor fused with a component of one. -/
structure Unmistakable (stem : String) : Prop extends Referable stem where
  /-- What follows an opening parenthesis is no numeral, nor does it become one. -/
  noOpening : ∀ rest, withoutOpening? stem = some rest →
    Single.ofText? rest = none ∧ Single.ofText? (rest ++ "1") = none

/-- A text with the stem is read as a name exactly if it gives its number back. -/
theorem Evaluation.resolve_fst_eq_reference_iff {text : String} (hstem : hasStem stem text = true)
    (e : Evaluation) : (e.resolve stem text).1 = .reference text ↔ GivesBack stem text := by
  refine ⟨fun h => ?_, fun h => congrArg Prod.fst (resolve_of_givesBack h)⟩
  cases hc : withoutClosing? text with
  | some fused =>
    rw [resolve_vector hc] at h
    cases h
  | none =>
    cases hv : Single.ofText? text with
    | some value =>
      rw [resolve_scalar hc hv] at h
      cases h
    | none => exact ⟨hc, hv, hstem⟩

/-! ### Names as words -/

/-- The names of a valid stem are words unless a grouping bracket stands in it. -/
theorem isToken_syntheticName_iff (hvalid : Settings.validStem stem = true) (n : Nat) :
    IsToken (syntheticName stem n) ↔ ∀ c ∈ stem.toList, c ∉ groupingMarkers := by
  obtain ⟨hne, hblank⟩ : stem ≠ "" ∧ ∀ c ∈ stem.toList, Text.isBlank c = false := by
    simpa [Settings.validStem] using hvalid
  constructor
  · intro h c hc hmarker
    have hsep := h.noSeparator c (by
      rw [toList_syntheticName]
      exact List.mem_append_left _ hc)
    simp [isSeparator, hmarker] at hsep
  · intro h
    refine isToken_of_forall (fun hempty => hne ?_) fun c hc => ?_
    · have hnil := congrArg String.toList hempty
      rw [toList_syntheticName] at hnil
      exact String.toList_eq_nil_iff.mp (List.append_eq_nil_iff.mp hnil).1
    · rw [toList_syntheticName, List.mem_append] at hc
      rcases hc with hc | hc
      · have hspace : c ≠ ' ' := by
          rintro rfl
          exact absurd (hblank _ hc) (by decide)
        exact ⟨by simp [isSeparator, hspace, h c hc], hblank c hc⟩
      · have hnumeral := isNumeralChar_of_isDigit (isDigit_of_mem_numberSuffix hc)
        exact ⟨isSeparator_of_isNumeralChar hnumeral, isBlank_of_isNumeralChar hnumeral⟩

end FormulaChain
