import FormulaChain.Formula.Evaluation
import FormulaChain.Node.Binding

/-!
# Renaming

The names that an operator reads and writes may be replaced by others, whatever the names mean.
Binding operands commutes with that as long as the texts of vectors, which an operator may also read
as names, stay as they are (`Operation.bind_mapName`).
-/

namespace FormulaChain

section MapName

variable (f : String → String)

/-- The name that an operand refers to is replaced. -/
def Operand.mapName : Operand → Operand
  | .reference name => .reference (f name)
  | operand => operand

/-- A name written into a socket is replaced. -/
def SocketValue.mapName : SocketValue → SocketValue
  | .text name => .text (f name)
  | value => value

/-- The name that an operand is bound to is replaced. -/
def Binding.mapName (b : Binding) : Binding := { b with value := b.value.mapName f }

/-- The names that an operator reads and writes are replaced. -/
def Step.mapNames (step : Step) : Step :=
  ⟨step.operation, step.args.map (·.mapName f), f step.resultName⟩

end MapName

variable {f : String → String}

theorem ofScalar_mapName (hf : ∀ t : Triple, f t.attributeText = t.attributeText) (slot : Slot)
    (operand : Operand) :
    Binding.ofScalar slot (operand.mapName f) = (Binding.ofScalar slot operand).mapName f := by
  cases operand with
  | scalar s => rfl
  | vector t =>
    simp [Operand.mapName, Binding.ofScalar, Binding.mapName, Binding.named, SocketValue.mapName,
      hf t]
  | reference name => rfl

theorem ofOperand_mapName (hf : ∀ t : Triple, f t.attributeText = t.attributeText)
    (operation : Operation) (slot : Slot) (operand : Operand) :
    Binding.ofOperand operation slot (operand.mapName f) =
      (Binding.ofOperand operation slot operand).mapName f := by
  cases operation with
  | scalar o => exact ofScalar_mapName hf slot operand
  | vector o =>
    simp only [Binding.ofOperand, Binding.ofVector]
    by_cases hfactor : Binding.isFactor o slot = true
    · rw [if_pos hfactor, if_pos hfactor]
      exact ofScalar_mapName hf slot operand
    · rw [if_neg hfactor, if_neg hfactor]
      cases operand <;> rfl

/-- **Renamed operands are bound to renamed values.** -/
theorem Operation.bind_mapName (hf : ∀ t : Triple, f t.attributeText = t.attributeText)
    (operation : Operation) (args : List Operand) :
    operation.bind (args.map (·.mapName f)) = (operation.bind args).map (·.mapName f) := by
  rw [bind, bind, List.zipWith_map_right, List.map_zipWith]
  simp only [ofOperand_mapName hf]

end FormulaChain
