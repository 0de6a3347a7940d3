import FormulaChain.Formula.Settings
import FormulaChain.Proofs.Formula.Name
import FormulaChain.Proofs.Formula.Rename

/-!
# Shifted names

Operators read after others name their results as they would alone, but with greater numbers. What
they refer to is shifted with the names: every synthetic name in an operand, a binding or a result
is replaced by the one whose number is greater by the same amount, and all else stays. Binding
operands commutes with the shift (`Operation.bind_shift`).
-/

namespace FormulaChain

/-- The number of a synthetic name. -/
def syntheticNumber? (stem name : String) : Option Nat :=
  let number := Nat.ofDigitChars 10 (name.toList.drop stem.toList.length) 0
  if name = syntheticName stem number then some number else none

theorem syntheticNumber?_eq_some {stem name : String} {n : Nat} :
    syntheticNumber? stem name = some n ↔ name = syntheticName stem n := by
  constructor
  · intro h
    simp only [syntheticNumber?, Option.ite_none_right_eq_some] at h
    obtain ⟨hname, heq⟩ := h
    rw [← Option.some.inj heq]
    exact hname
  · rintro rfl
    simp [syntheticNumber?, toList_syntheticName, ofDigitChars_numberSuffix]

section Shift

variable (stem : String) (c : Nat)

/-- A synthetic name gets a number that is greater by `c`; other names stay. -/
def shiftName (name : String) : String :=
  (syntheticNumber? stem name).elim name fun n => syntheticName stem (n + c)

/-- The name that an operand refers to is shifted. -/
def Operand.shift : Operand → Operand
  | .reference name => .reference (shiftName stem c name)
  | operand => operand

/-- A name written into a socket is shifted. -/
def SocketValue.shift : SocketValue → SocketValue
  | .text name => .text (shiftName stem c name)
  | value => value

/-- The name that an operand is bound to is shifted. -/
def Binding.shift (b : Binding) : Binding := { b with value := b.value.shift stem c }

/-- The names that an operator reads and writes are shifted. -/
def Step.shift (step : Step) : Step :=
  ⟨step.operation, step.args.map (·.shift stem c), shiftName stem c step.resultName⟩

end Shift

variable {stem : String}

@[simp]
theorem shiftName_syntheticName (c n : Nat) :
    shiftName stem c (syntheticName stem n) = syntheticName stem (n + c) := by
  simp [shiftName, syntheticNumber?_eq_some.mpr rfl]

theorem shiftName_of_ne {name : String} (h : ∀ n, name ≠ syntheticName stem n) (c : Nat) :
    shiftName stem c name = name := by
  have hnone : syntheticNumber? stem name = none :=
    Option.eq_none_iff_forall_ne_some.mpr fun n hn => h n (syntheticNumber?_eq_some.mp hn)
  simp [shiftName, hnone]

/-! ### Bindings -/

/-- A synthetic name has no blank in it. -/
theorem space_notMem_syntheticName (hvalid : Settings.validStem stem = true) (n : Nat) :
    ' ' ∉ (syntheticName stem n).toList := by
  intro hmem
  have hstem : ' ' ∈ stem.toList := mem_stem_of_mem_syntheticName hmem (by decide)
  have hblank := (Bool.and_eq_true_iff.mp hvalid).2
  simp only [Bool.not_eq_true', List.any_eq_false] at hblank
  exact hblank ' ' hstem (by decide)

/-- In the text of a vector spaces part the components. -/
theorem space_mem_attributeText (t : Triple) : ' ' ∈ t.attributeText.toList := by
  have hcomma : (", " : String).toList = [',', ' '] := by decide
  simp [Triple.attributeText, Triple.toList, String.intercalate_cons_cons, hcomma]

/-- The text of a vector is no synthetic name. -/
theorem attributeText_ne (hvalid : Settings.validStem stem = true) (t : Triple) (n : Nat) :
    t.attributeText ≠ syntheticName stem n := fun heq =>
  space_notMem_syntheticName hvalid n (heq ▸ space_mem_attributeText t)

theorem Operand.shift_eq_mapName (c : Nat) (operand : Operand) :
    operand.shift stem c = operand.mapName (shiftName stem c) := by
  cases operand <;> rfl

theorem Binding.shift_eq_mapName (c : Nat) (b : Binding) :
    b.shift stem c = b.mapName (shiftName stem c) := by
  obtain ⟨slot, kind, socket, value⟩ := b
  cases value <;> rfl

/-- **Shifted operands are bound to shifted values.** -/
theorem Operation.bind_shift (hvalid : Settings.validStem stem = true) (c : Nat)
    (operation : Operation) (args : List Operand) :
    operation.bind (args.map (·.shift stem c)) =
      (operation.bind args).map (·.shift stem c) := by
  simp only [Operand.shift_eq_mapName, Binding.shift_eq_mapName]
  exact bind_mapName (fun t => shiftName_of_ne (attributeText_ne hvalid t) c) operation args

end FormulaChain
