import FormulaChain.Proofs.Formula.Operators

/-!
# The depth of the stack

As long as no text that waits ends in a closing parenthesis, no vector literal is read: an operator
takes as many entries from the stack as its arity says, or all there are, and leaves one. How many
entries wait can then be told from the words alone (`depths`).

An operator that finds fewer entries than its arity gets a placeholder for each that is missing, in
front of the operands that it finds, and each placeholder is reported once
(`readWords_of_unclosed`).
-/

namespace FormulaChain

/-- What a text that ends no vector literal is resolved to. -/
def plainOperand (text : String) : Operand :=
  match Single.ofText? text with
  | some value => .scalar value
  | none => .reference text

/-- Nothing on a stack ends a vector literal. -/
def Unclosed (stack : List StackEntry) : Prop :=
  ∀ entry ∈ stack, withoutClosing? entry.text = none

theorem unclosed_cons {entry : StackEntry} {stack : List StackEntry} :
    Unclosed (entry :: stack) ↔ withoutClosing? entry.text = none ∧ Unclosed stack :=
  List.forall_mem_cons

namespace OperatorSpec

variable (spec : OperatorSpec) (stack : List StackEntry)

/-- The operands that an operator finds on a stack, from the top down. -/
def found : List Operand := (stack.take spec.arity).map (plainOperand ·.text)

/-- How many operands are missing. -/
def shortage : Nat := spec.arity - stack.length

/-- What an operator gets: a placeholder for each operand that is missing, then those that it finds
in the order in which they were pushed. -/
def argsFrom : List Operand :=
  List.replicate (spec.shortage stack) .missing ++ (spec.found stack).reverse

/-- The reports of the operands that are missing, each with all operands before it. -/
def underflows : List Diagnostic :=
  (List.range (spec.shortage stack)).map fun missing =>
    Evaluation.underflow spec.operation spec.arity
      (spec.found stack ++ List.replicate missing .missing)

end OperatorSpec

namespace Evaluation

variable {catalog : Catalog} {stem : String} {operation : Operation} {arity : Nat} {e : Evaluation}

/-! ### Operands -/

theorem resolve_of_unclosed {text : String} (h : withoutClosing? text = none) :
    (e.resolve stem text).1 = plainOperand text := by
  unfold plainOperand
  cases hv : Single.ofText? text with
  | some value => rw [resolve_scalar h hv]
  | none =>
    cases hs : hasStem stem text with
    | true => rw [resolve_of_givesBack ⟨h, hv, hs⟩]
    | false => rw [resolve_name h hv hs]

/-- From an empty stack come placeholders, each with its report. -/
theorem takeOperands_of_empty (h : e.stack = []) (count : Nat) (taken : List Operand) :
    e.takeOperands stem operation arity count taken =
      (taken ++ List.replicate count .missing,
        { e with diagnostics := e.diagnostics ++ (List.range count).map fun missing =>
            underflow operation arity (taken ++ List.replicate missing .missing) }) := by
  induction count generalizing e taken with
  | zero => simp [takeOperands]
  | succ count ih =>
    have hreport : (e.report (underflow operation arity taken)).stack = [] := h
    simp only [takeOperands, takeOperand_nil h, ih hreport]
    simp [report, List.range_succ_eq_map, List.replicate_succ, Function.comp_def]

/-- What an operator takes from a stack on which nothing ends a literal. -/
theorem takeOperands_of_unclosed (stem : String) (operation : Operation) (arity : Nat)
    (h : Unclosed e.stack) (count : Nat) (taken : List Operand) :
    (e.takeOperands stem operation arity count taken).1 =
        taken ++ (e.stack.take count).map (plainOperand ·.text) ++
          List.replicate (count - e.stack.length) .missing ∧
      (e.takeOperands stem operation arity count taken).2.stack = e.stack.drop count ∧
      (e.takeOperands stem operation arity count taken).2.diagnostics = e.diagnostics ++
        (List.range (count - e.stack.length)).map fun missing => underflow operation arity
          (taken ++ (e.stack.take count).map (plainOperand ·.text) ++
            List.replicate missing .missing) := by
  induction count generalizing e taken with
  | zero => simp [takeOperands]
  | succ count ih =>
    cases hs : e.stack with
    | nil => simp [takeOperands_of_empty hs, hs]
    | cons entry below =>
      rw [hs, unclosed_cons] at h
      obtain ⟨popped, hpopped⟩ : ∃ popped : Evaluation, popped = { e with stack := below } :=
        ⟨_, rfl⟩
      obtain ⟨hstack, hreports⟩ : (popped.resolve stem entry.text).2.stack = below ∧
          (popped.resolve stem entry.text).2.diagnostics = e.diagnostics := by
        rw [(resolve_of_not_closing h.1).1, (resolve_of_not_closing h.1).2, hpopped]
        exact ⟨rfl, rfl⟩
      have hoperand : (popped.resolve stem entry.text).1 = plainOperand entry.text :=
        resolve_of_unclosed h.1
      obtain ⟨hargs, hlower, hraised⟩ := ih (e := (popped.resolve stem entry.text).2)
        (by rw [hstack]; exact h.2) (taken ++ [plainOperand entry.text])
      simp only [takeOperands, takeOperand_cons hs, ← hpopped, hoperand]
      rw [hargs, hlower, hraised, hstack, hreports]
      simp

/-- What an operator gets from such a stack, and what it leaves of it. -/
theorem collectArgs_of_unclosed (stem : String) (h : Unclosed e.stack) (spec : OperatorSpec) :
    (e.collectArgs stem spec.operation spec.arity).1 = spec.argsFrom e.stack ∧
      (e.collectArgs stem spec.operation spec.arity).2.stack = e.stack.drop spec.arity ∧
      (e.collectArgs stem spec.operation spec.arity).2.diagnostics =
        e.diagnostics ++ spec.underflows e.stack := by
  obtain ⟨hargs, hstack, hreports⟩ := takeOperands_of_unclosed stem spec.operation spec.arity h
    spec.arity []
  rw [List.nil_append] at hargs hreports
  refine ⟨?_, hstack, hreports⟩
  show (takeOperands stem spec.operation spec.arity spec.arity [] e).1.reverse = _
  rw [hargs, List.reverse_append, List.reverse_replicate]
  rfl

/-! ### Words -/

/-- A word keeps the stack free of texts that end a literal. -/
theorem unclosed_consume (h : Unclosed e.stack) (hstem : withoutClosing? stem = none)
    {word : String} (hword : catalog.lookup word .either = none → withoutClosing? word = none) :
    Unclosed (e.consume catalog stem word).stack := by
  cases hl : catalog.lookup word .either with
  | none =>
    rw [consume_operand hl, push, unclosed_cons]
    exact ⟨hword hl, h⟩
  | some spec =>
    rw [consume_operator hl, emit, unclosed_cons]
    refine ⟨withoutClosing?_syntheticName hstem _, fun entry hentry => h entry ?_⟩
    exact (takeOperands_suffix e spec.arity []).mem hentry

/-- The operators among some words, each with the stack on which it is met. -/
def occurrences (catalog : Catalog) (stem : String) :
    Evaluation → List String → List (OperatorSpec × List StackEntry)
  | _, [] => []
  | e, word :: words =>
    match catalog.lookup word .either with
    | some spec => (spec, e.stack) :: occurrences catalog stem (e.consume catalog stem word) words
    | none => occurrences catalog stem (e.consume catalog stem word) words

end Evaluation

/-- The operators among some words, each with the depth of the stack on which it is met, if reading
begins at a depth and no vector literal is read. -/
def Catalog.depths (catalog : Catalog) : Nat → List String → List (OperatorSpec × Nat)
  | _, [] => []
  | depth, word :: words =>
    match catalog.lookup word .either with
    | some spec => (spec, depth) :: catalog.depths (depth - spec.arity + 1) words
    | none => catalog.depths (depth + 1) words

/-- What a step is asked for: an operation with operands. -/
def Step.application (step : Step) : Operation × List Operand := (step.operation, step.args)

namespace Evaluation

variable {catalog : Catalog} {stem : String} {e : Evaluation}

/-- **What operators get and what is reported, in the course of some words**: each operator gets
what its stack has and placeholders for what it lacks, and the reports are those of the
placeholders. How high the stack is depends on the words alone. -/
theorem readWords_of_unclosed (hstem : withoutClosing? stem = none) {words : List String}
    (hwords : ∀ word ∈ words, catalog.lookup word .either = none → withoutClosing? word = none)
    (h : Unclosed e.stack) :
    (e.readWords catalog stem words).steps.map Step.application = e.steps.map Step.application ++
        (occurrences catalog stem e words).map
          (fun met => (met.1.operation, met.1.argsFrom met.2)) ∧
      (e.readWords catalog stem words).diagnostics = e.diagnostics ++
        (occurrences catalog stem e words).flatMap (fun met => met.1.underflows met.2) ∧
      (occurrences catalog stem e words).map (fun met => (met.1, met.2.length)) =
        catalog.depths e.stack.length words := by
  induction words generalizing e with
  | nil => simp [occurrences, Catalog.depths]
  | cons word words ih =>
    rw [List.forall_mem_cons] at hwords
    obtain ⟨hsteps, hreports, hdepths⟩ := ih hwords.2 (unclosed_consume h hstem hwords.1)
    rw [readWords_cons, hsteps, hreports]
    cases hl : catalog.lookup word .either with
    | none =>
      rw [consume_operand hl] at hdepths
      simp only [occurrences, Catalog.depths, hl, consume_operand hl]
      exact ⟨rfl, rfl, hdepths⟩
    | some spec =>
      obtain ⟨hargs, hstack, hraised⟩ := collectArgs_of_unclosed stem h spec
      have hlength : (e.consume catalog stem word).stack.length =
          e.stack.length - spec.arity + 1 := by
        rw [consume_operator hl, emit, List.length_cons, hstack, List.length_drop]
      rw [hlength] at hdepths
      simp only [occurrences, Catalog.depths, hl, List.map_cons, List.flatMap_cons, hdepths,
        and_true]
      rw [consume_operator hl]
      simp [emit, hargs, hraised, collectArgs_steps, Step.application]

end Evaluation

/-- An operator is reported about exactly if it finds fewer operands than it takes. -/
theorem OperatorSpec.underflows_eq_nil_iff {spec : OperatorSpec} {stack : List StackEntry} :
    spec.underflows stack = [] ↔ spec.arity ≤ stack.length := by
  rw [underflows, List.map_eq_nil_iff, List.range_eq_nil, shortage, Nat.sub_eq_zero_iff_le]

theorem OperatorSpec.length_argsFrom (spec : OperatorSpec) (stack : List StackEntry) :
    (spec.argsFrom stack).length = spec.arity := by
  simp only [argsFrom, found, shortage, List.length_append, List.length_replicate,
    List.length_reverse, List.length_map, List.length_take]
  omega

end FormulaChain
