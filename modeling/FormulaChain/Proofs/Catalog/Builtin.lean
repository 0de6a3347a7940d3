import FormulaChain.Catalog.Builtin
import FormulaChain.Proofs.Formula.Word
import Mathlib.Data.List.Basic

/-!
# The built-in spellings

No built-in operator is spelled like a number, like the result arrow, or like the first or the last
word of a vector literal. So the words of operands never count as built-in operators.
-/

namespace FormulaChain

namespace Catalog

/-- A catalog knows a word only by its spellings. -/
theorem mem_spellings_of_lookup {catalog : Catalog} {word : String} {hint : DomainHint}
    {spec : OperatorSpec} (h : catalog.lookup word hint = some spec) :
    word ∈ catalog.spellings := by
  obtain ⟨position, hposition, -⟩ := Option.bind_eq_some_iff.mp h
  obtain ⟨before, after, hindex, -⟩ := List.lookup_eq_some_iff.mp hposition
  simp [spellings, hindex]

theorem lookup_eq_none_of_notMem {catalog : Catalog} {word : String} {hint : DomainHint}
    (h : word ∉ catalog.spellings) : catalog.lookup word hint = none := by
  cases hl : catalog.lookup word hint with
  | none => rfl
  | some spec => exact absurd (mem_spellings_of_lookup hl) h

/-- The tables of the built-in operators make a catalog. -/
theorem ofTables_builtin : ofTables scalarOperators vectorOperators = .ok builtin := by
  decide +kernel

/-- Each spelling of a built-in operator finds its operator. -/
theorem lookup_builtin_of_mem {spec : OperatorSpec} (hs : spec ∈ scalarOperators ++ vectorOperators)
    {word : String} (hw : word ∈ spec.spellings) : builtin.lookup word .either = some spec := by
  have hall : ∀ spec ∈ scalarOperators ++ vectorOperators, ∀ word ∈ spec.spellings,
      builtin.lookup word .either = some spec := by decide +kernel
  exact hall spec hs word hw

/-- What the built-in spellings have in common. -/
structure PlainSpelling (word : String) : Prop where
  /-- It is one word. -/
  isToken : IsToken word
  /-- It is no number. -/
  noNumber : Single.ofText? word = none
  /-- It is not the result arrow. -/
  noArrow : word ≠ resultArrow
  /-- It begins no vector literal. -/
  noOpening : word.toList.head? ≠ some '('
  /-- It ends no vector literal. -/
  noClosing : word.toList.getLast? ≠ some ')'

instance (word : String) : Decidable (PlainSpelling word) :=
  decidable_of_iff (IsToken word ∧ Single.ofText? word = none ∧ word ≠ resultArrow ∧
      word.toList.head? ≠ some '(' ∧ word.toList.getLast? ≠ some ')')
    ⟨fun ⟨h₁, h₂, h₃, h₄, h₅⟩ => ⟨h₁, h₂, h₃, h₄, h₅⟩,
      fun h => ⟨h.isToken, h.noNumber, h.noArrow, h.noOpening, h.noClosing⟩⟩

theorem plainSpelling_of_mem_builtin {word : String} (h : word ∈ builtin.spellings) :
    PlainSpelling word := by
  have hall : ∀ word ∈ builtin.spellings, PlainSpelling word := by decide +kernel
  exact hall word h

variable {text : String}

theorem lookup_builtin_of_ofText? {value : Single} (h : Single.ofText? text = some value) :
    builtin.lookup text .either = none := by
  refine lookup_eq_none_of_notMem fun hmem => ?_
  rw [(plainSpelling_of_mem_builtin hmem).noNumber] at h
  cases h

theorem lookup_builtin_of_opening (h : text.toList.head? = some '(') :
    builtin.lookup text .either = none :=
  lookup_eq_none_of_notMem fun hmem => (plainSpelling_of_mem_builtin hmem).noOpening h

theorem lookup_builtin_of_closing (h : text.toList.getLast? = some ')') :
    builtin.lookup text .either = none :=
  lookup_eq_none_of_notMem fun hmem => (plainSpelling_of_mem_builtin hmem).noClosing h

end Catalog

end FormulaChain
