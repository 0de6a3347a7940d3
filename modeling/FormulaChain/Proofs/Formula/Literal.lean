import FormulaChain.Proofs.Formula.Stack

/-!
# Well-formed vector literals

A vector literal that raises no report consists of numerals and of an opening parenthesis. With a
plain stem, neither is taken for the name of a result, so that such a literal takes nothing from the
stack that would give a number back (`takeVector_drops`).
-/

namespace FormulaChain

/-- No report is about a malformed operand. -/
def NoneMalformed (reports : List Diagnostic) : Prop :=
  ∀ d ∈ reports, d.kind ≠ .malformedOperand

section Reports

variable {reports more : List Diagnostic} {message : String}

theorem noneMalformed_of_eq_nil (h : reports = []) : NoneMalformed reports := by
  rintro d hd
  rw [h] at hd
  cases hd

theorem noneMalformed_append :
    NoneMalformed (reports ++ more) ↔ NoneMalformed reports ∧ NoneMalformed more :=
  List.forall_mem_append

theorem NoneMalformed.of_prefix (h : NoneMalformed more) (hp : reports <+: more) :
    NoneMalformed reports :=
  fun d hd => h d (hp.mem hd)

theorem not_noneMalformed_singleton : ¬ NoneMalformed [.ofKind .malformedOperand message] :=
  fun h => h _ (List.mem_singleton_self _) rfl

end Reports

/-! ### What literals take -/

/-- Only entries that give no number back lie above a lower part of a stack. -/
def Drops (stem : String) (stack below : List StackEntry) : Prop :=
  ∃ taken, stack = taken ++ below ∧ ∀ entry ∈ taken, ¬ GivesBack stem entry.text

namespace Drops

variable {stem : String} {stack middle below : List StackEntry} {entry : StackEntry}

theorem refl (stem : String) (stack : List StackEntry) : Drops stem stack stack :=
  ⟨[], rfl, fun _ h => by cases h⟩

theorem cons (h : ¬ GivesBack stem entry.text) : Drops stem (entry :: stack) stack :=
  ⟨[entry], rfl, fun _ hmem => List.mem_singleton.mp hmem ▸ h⟩

theorem trans (h : Drops stem stack middle) (h' : Drops stem middle below) :
    Drops stem stack below := by
  obtain ⟨taken, rfl, ht⟩ := h
  obtain ⟨more, rfl, hm⟩ := h'
  refine ⟨taken ++ more, (List.append_assoc ..).symm, fun entry hmem => ?_⟩
  rcases List.mem_append.mp hmem with hmem | hmem
  · exact ht entry hmem
  · exact hm entry hmem

end Drops

/-- A component that is not reported is a numeral. -/
theorem exists_numeral_of_component {text : Option String}
    (h : NoneMalformed (component text).2) :
    ∃ numeral value, text = some numeral ∧ Single.ofText? numeral = some value := by
  unfold component at h
  cases hv : text.bind Single.ofText? with
  | none =>
    rw [hv] at h
    exact absurd h not_noneMalformed_singleton
  | some value =>
    obtain ⟨numeral, htext, hvalue⟩ := Option.bind_eq_some_iff.mp hv
    exact ⟨numeral, value, htext, hvalue⟩

theorem not_givesBack_of_numeral {stem text : String} {value : Single}
    (h : Single.ofText? text = some value) : ¬ GivesBack stem text := by
  rintro ⟨-, hnone, -⟩
  rw [h] at hnone
  cases hnone

theorem takeTop_drops {stem : String} {stack : List StackEntry}
    (h : NoneMalformed (component (takeTop stack).1).2) : Drops stem stack (takeTop stack).2 := by
  obtain ⟨numeral, value, htext, hvalue⟩ := exists_numeral_of_component h
  cases stack with
  | nil => cases htext
  | cons entry below =>
    cases htext
    exact .cons (not_givesBack_of_numeral hvalue)

theorem takeLast_drops {stem fused : String} {stack : List StackEntry}
    (h : NoneMalformed (takeLast fused stack).2.1) :
    Drops stem stack (takeLast fused stack).2.2 := by
  unfold takeLast at h ⊢
  by_cases hfused : fused = ""
  · rw [if_pos hfused] at h ⊢
    exact takeTop_drops h
  · rw [if_neg hfused]
    exact .refl stem stack

namespace PlainStem

variable {stem : String} (hplain : PlainStem stem)

include hplain

/-- The empty stem has numerals among its names. -/
theorem ne_empty : stem.toList ≠ [] := by
  intro hnil
  have hempty : stem = "" := String.toList_inj.mp hnil
  have hone := hplain.noNumeral 1
  rw [hempty] at hone
  exact absurd hone (by decide)

/-- What opens a literal is no name with the stem. -/
theorem not_givesBack_of_opening {text : String} {rest : List Char}
    (h : text.toList = '(' :: rest) : ¬ GivesBack stem text := by
  rintro ⟨-, -, hs⟩
  rw [hasStem_iff, h] at hs
  cases hstem : stem.toList with
  | nil => exact hplain.ne_empty hstem
  | cons c cs =>
    rw [hstem, List.cons_prefix_cons] at hs
    refine hplain.noOpening ?_
    rw [hstem, hs.1]
    exact List.mem_cons_self

theorem takeOpening_drops {stack : List StackEntry} (h : NoneMalformed (takeOpening stack).1) :
    Drops stem stack (takeOpening stack).2 := by
  cases stack with
  | nil => exact absurd h not_noneMalformed_singleton
  | cons entry below =>
    by_cases hopening : entry.text = "("
    · have htext : entry.text.toList = ['('] := by
        rw [hopening]
        decide
      simp only [takeOpening, if_pos hopening]
      exact .cons (hplain.not_givesBack_of_opening htext)
    · simp only [takeOpening, if_neg hopening] at h
      exact absurd h not_noneMalformed_singleton

theorem takeFirst_drops {stack : List StackEntry} (h : NoneMalformed (takeFirst stack).2.1) :
    Drops stem stack (takeFirst stack).2.2 := by
  cases stack with
  | nil => exact absurd h not_noneMalformed_singleton
  | cons entry below =>
    simp only [takeFirst, takeTop] at h ⊢
    cases ho : withoutOpening? entry.text with
    | some fused =>
      refine .cons ?_
      unfold withoutOpening? at ho
      split at ho
      · next rest htext => exact hplain.not_givesBack_of_opening htext
      · cases ho
    | none =>
      simp only [ho, noneMalformed_append] at h ⊢
      obtain ⟨numeral, value, htext, hvalue⟩ := exists_numeral_of_component h.2
      cases htext
      exact (Drops.cons (not_givesBack_of_numeral hvalue)).trans (hplain.takeOpening_drops h.1)

/-- A well-formed literal takes nothing that would give a number back. -/
theorem takeVector_drops {fused : String} {stack : List StackEntry}
    (h : NoneMalformed (takeVector fused stack).2.1) :
    Drops stem stack (takeVector fused stack).2.2 := by
  simp only [takeVector, noneMalformed_append] at h ⊢
  obtain ⟨⟨hz, hy⟩, hx⟩ := h
  exact (takeLast_drops hz).trans ((takeTop_drops hy).trans (hplain.takeFirst_drops hx))

end PlainStem

end FormulaChain
