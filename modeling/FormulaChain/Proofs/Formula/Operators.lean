import FormulaChain.Proofs.Catalog.Tables
import FormulaChain.Proofs.Formula.Stack

/-!
# The operators of a formula

Reading asks for one step for each word that is an operator, with as many operands as the operator
takes (`readWords_operators`), under a name made from the stem. What is reported while operators
take their operands are warnings (`readWords_warnings`).
-/

namespace FormulaChain

/-- The operators among some words, in order. -/
def Catalog.operators (catalog : Catalog) (words : List String) : List OperatorSpec :=
  words.filterMap (catalog.lookup · .either)

section Operators

variable {catalog : Catalog} {word : String} {words : List String}

theorem Catalog.operators_concat (words : List String) (word : String) :
    catalog.operators (words ++ [word]) =
      catalog.operators words ++ (catalog.lookup word .either).toList := by
  rw [operators, List.filterMap_append]
  cases h : catalog.lookup word .either <;> simp [operators, h]

theorem Catalog.operators_eq_nil_iff :
    catalog.operators words = [] ↔ ∀ word ∈ words, catalog.lookup word .either = none :=
  List.filterMap_eq_nil_iff

end Operators

/-- What an operator is asked for: an operation with a number of operands. -/
def OperatorSpec.shape (spec : OperatorSpec) : Operation × Nat := (spec.operation, spec.arity)

/-- The operation of a step with the number of its operands. -/
def Step.shape (step : Step) : Operation × Nat := (step.operation, step.args.length)

namespace Evaluation

variable {catalog : Catalog} {stem : String} {operation : Operation} {arity : Nat}

/-! ### Steps -/

theorem length_takeOperands (e : Evaluation) (count : Nat) (taken : List Operand) :
    (e.takeOperands stem operation arity count taken).1.length = taken.length + count := by
  induction count generalizing e taken with
  | zero => rfl
  | succ count ih =>
    simp only [takeOperands]
    rw [ih, List.length_append, List.length_singleton, Nat.add_right_comm, Nat.add_assoc]

/-- An operator gets as many operands as it takes, whatever waits. -/
theorem length_collectArgs (e : Evaluation) :
    (e.collectArgs stem operation arity).1.length = arity := by
  simp [collectArgs, length_takeOperands]

/-- **There is one step for each operator.** -/
theorem readWords_operators (words : List String) :
    (start.readWords catalog stem words).steps.map Step.shape =
      (catalog.operators words).map OperatorSpec.shape := by
  induction words using List.reverseRecOn with
  | nil => rfl
  | append_singleton words word ih =>
    rw [readWords_append, readWords_cons, readWords_nil, Catalog.operators_concat]
    cases hl : catalog.lookup word .either with
    | none =>
      rw [consume_operand hl]
      simpa [push] using ih
    | some spec =>
      rw [consume_operator hl]
      simp only [emit, collectArgs_steps, List.map_append, ih]
      simp [Step.shape, OperatorSpec.shape, length_collectArgs]

/-- With a well-formed catalog every operator gets operands, and no more than a node can take. -/
theorem length_args_bounds (hcatalog : catalog.WellFormed) {words : List String} {step : Step}
    (hstep : step ∈ (start.readWords catalog stem words).steps) :
    1 ≤ step.args.length ∧ step.args.length ≤ 3 := by
  have hshape := List.mem_map_of_mem (f := Step.shape) hstep
  rw [readWords_operators] at hshape
  obtain ⟨spec, hspec, heq⟩ := List.mem_map.mp hshape
  obtain ⟨word, -, hlookup⟩ := List.mem_filterMap.mp hspec
  have harity : spec.arity = step.args.length := congrArg Prod.snd heq
  rw [← harity]
  exact hcatalog.arity spec (Catalog.mem_specs_of_lookup hlookup)

theorem readWords_steps_eq_nil_iff {words : List String} :
    (start.readWords catalog stem words).steps = [] ↔
      ∀ word ∈ words, catalog.lookup word .either = none := by
  rw [← Catalog.operators_eq_nil_iff, ← List.map_eq_nil_iff (f := OperatorSpec.shape),
    ← readWords_operators, List.map_eq_nil_iff]

/-- Steps have names made from the stem. -/
theorem readWords_named (words : List String) :
    ∀ step ∈ (start.readWords catalog stem words).steps,
      ∃ number, step.resultName = syntheticName stem number := by
  refine readWords_induct (P := fun e => ∀ step ∈ e.steps, ∃ number,
    step.resultName = syntheticName stem number) (fun e word _ h => ?_) (by simp [start])
  cases hl : catalog.lookup word .either with
  | none =>
    rw [consume_operand hl]
    exact h
  | some spec =>
    rw [consume_operator hl]
    intro step hstep
    rcases List.mem_append.mp hstep with hstep | hstep
    · rw [collectArgs_steps] at hstep
      exact h step hstep
    · rw [List.mem_singleton.mp hstep]
      exact ⟨_, rfl⟩

end Evaluation

/-! ### Reports -/

/-- All reports are warnings. -/
def AllWarnings (reports : List Diagnostic) : Prop := ∀ d ∈ reports, d.severity = .warning

section Warnings

variable {stem : String} {operation : Operation} {arity : Nat}

theorem allWarnings_append {reports more : List Diagnostic} (h : AllWarnings reports)
    (h' : AllWarnings more) : AllWarnings (reports ++ more) :=
  List.forall_mem_append.mpr ⟨h, h'⟩

theorem allWarnings_component (text : Option String) : AllWarnings (component text).2 := by
  unfold component
  split <;> simp [AllWarnings, Diagnostic.ofKind, DiagnosticKind.severity]

theorem allWarnings_takeOpening (stack : List StackEntry) :
    AllWarnings (takeOpening stack).1 := by
  have hmissing : AllWarnings [takeOpening.missing] := by
    simp [AllWarnings, takeOpening.missing, Diagnostic.ofKind, DiagnosticKind.severity]
  cases stack with
  | nil => exact hmissing
  | cons entry below =>
    by_cases h : entry.text = "("
    · simp [takeOpening, h, AllWarnings]
    · simpa [takeOpening, h] using hmissing

theorem allWarnings_takeFirst (stack : List StackEntry) :
    AllWarnings (takeFirst stack).2.1 := by
  unfold takeFirst
  split
  · exact allWarnings_component none
  · split
    · exact allWarnings_component _
    · exact allWarnings_append (allWarnings_takeOpening _) (allWarnings_component _)

theorem allWarnings_takeLast (fused : String) (stack : List StackEntry) :
    AllWarnings (takeLast fused stack).2.1 := by
  unfold takeLast
  split
  · exact allWarnings_component _
  · exact allWarnings_component _

theorem allWarnings_takeVector (fused : String) (stack : List StackEntry) :
    AllWarnings (takeVector fused stack).2.1 :=
  allWarnings_append
    (allWarnings_append (allWarnings_takeLast fused stack) (allWarnings_component _))
    (allWarnings_takeFirst _)

namespace Evaluation

theorem allWarnings_resolve {e : Evaluation} (h : AllWarnings e.diagnostics) (text : String) :
    AllWarnings (e.resolve stem text).2.diagnostics := by
  cases hc : withoutClosing? text with
  | none => rwa [(resolve_of_not_closing hc).2]
  | some fused =>
    rw [resolve_vector hc]
    exact allWarnings_append h (allWarnings_takeVector fused e.stack)

theorem allWarnings_takeOperand {e : Evaluation} (h : AllWarnings e.diagnostics)
    (taken : List Operand) :
    AllWarnings (e.takeOperand stem operation arity taken).2.diagnostics := by
  cases hs : e.stack with
  | nil =>
    rw [takeOperand_nil hs]
    exact allWarnings_append h (by
      simp [AllWarnings, underflow, Diagnostic.ofKind, DiagnosticKind.severity])
  | cons entry below =>
    rw [takeOperand_cons hs]
    exact allWarnings_resolve (e := { e with stack := below }) h entry.text

/-- **Reading gives nothing but warnings.** -/
theorem readWords_warnings (catalog : Catalog) (words : List String) :
    AllWarnings (start.readWords catalog stem words).diagnostics := by
  refine readWords_induct (P := fun e => AllWarnings e.diagnostics) (fun e word _ h => ?_)
    (by simp [AllWarnings, start])
  cases hl : catalog.lookup word .either with
  | none =>
    rw [consume_operand hl]
    exact h
  | some spec =>
    rw [consume_operator hl]
    exact takeOperands_induct (P := fun e => AllWarnings e.diagnostics)
      (fun e taken h => allWarnings_takeOperand h taken) spec.arity [] e h

end Evaluation

end Warnings

end FormulaChain
