import FormulaChain.Proofs.Formula.Stack
import FormulaChain.Proofs.Sink.Build

/-!
# Where the names in operands come from

An operator refers to what waits on the stack by its text: to a word of the formula, or to an
earlier result under its synthetic name. An operand that is not there has a name of its own. So what
holds of these texts holds of every name in the operands of a plan (`Plan.forall_reference`).
-/

namespace FormulaChain

/-- A property holds of all texts that wait and of all names that operators were given. -/
structure TextsHave (P : String → Prop) (e : Evaluation) : Prop where
  /-- It holds of the texts on the stack. -/
  stack : ∀ entry ∈ e.stack, P entry.text
  /-- It holds of the names in the operands. -/
  references : ∀ step ∈ e.steps, ∀ name, .reference name ∈ step.args → P name

namespace Evaluation

variable {P : String → Prop} {stem : String} {operation : Operation} {arity : Nat}

/-- A name is the text that was resolved. -/
theorem eq_of_resolve {e : Evaluation} {text name : String}
    (h : (e.resolve stem text).1 = .reference name) : name = text := by
  unfold resolve at h
  split at h
  · cases h
  · split at h
    · cases h
    · exact (Operand.reference.inj h).symm

theorem takeOperand_reference (hmissing : P "no_arg") {e : Evaluation}
    (h : ∀ entry ∈ e.stack, P entry.text) {taken : List Operand} {name : String}
    (hname : (e.takeOperand stem operation arity taken).1 = .reference name) : P name := by
  cases hs : e.stack with
  | nil =>
    rw [takeOperand_nil hs] at hname
    exact Operand.reference.inj hname ▸ hmissing
  | cons entry below =>
    rw [takeOperand_cons hs] at hname
    rw [eq_of_resolve hname]
    exact h entry (hs ▸ List.mem_cons_self)

theorem takeOperands_reference (hmissing : P "no_arg") {e : Evaluation}
    (h : ∀ entry ∈ e.stack, P entry.text) (count : Nat) (taken : List Operand)
    (htaken : ∀ name, .reference name ∈ taken → P name) :
    ∀ name, .reference name ∈ (e.takeOperands stem operation arity count taken).1 → P name := by
  induction count generalizing e taken with
  | zero => exact htaken
  | succ count ih =>
    refine ih (fun entry hentry => h entry ((takeOperand_suffix e taken).mem hentry)) _ ?_
    intro name hname
    rcases List.mem_append.mp hname with hname | hname
    · exact htaken name hname
    · exact takeOperand_reference hmissing h (List.mem_singleton.mp hname).symm

theorem textsHave_start : TextsHave P start := by
  constructor <;> simp [start]

/-- One word adds its own text or a synthetic name. -/
theorem textsHave_consume (hmissing : P "no_arg") (hnames : ∀ n, P (syntheticName stem n))
    {catalog : Catalog} {e : Evaluation} (h : TextsHave P e) {word : String} (hword : P word) :
    TextsHave P (e.consume catalog stem word) := by
  cases hl : catalog.lookup word .either with
  | none =>
    rw [consume_operand hl]
    exact ⟨List.forall_mem_cons.mpr ⟨hword, h.stack⟩, h.references⟩
  | some spec =>
    rw [consume_operator hl]
    constructor
    · refine List.forall_mem_cons.mpr ⟨hnames _, fun entry hentry => h.stack entry ?_⟩
      exact (takeOperands_suffix e spec.arity []).mem hentry
    · intro step hstep
      rcases List.mem_append.mp hstep with hstep | hstep
      · rw [collectArgs_steps] at hstep
        exact h.references step hstep
      · rw [List.mem_singleton.mp hstep]
        intro name hname
        exact takeOperands_reference hmissing h.stack spec.arity []
          (fun _ hmem => absurd hmem List.not_mem_nil) name (List.mem_reverse.mp hname)

end Evaluation

/-- **What holds of all words and all synthetic names holds of all names in operands.** -/
theorem Plan.forall_reference {P : String → Prop} {catalog : Catalog} {stem : String}
    {words : List String} (hmissing : P "no_arg") (hnames : ∀ n, P (syntheticName stem n))
    (hwords : ∀ word ∈ words, P word) {step : Step}
    (hstep : step ∈ (Plan.ofWords catalog stem words).steps) {name : String}
    (hname : .reference name ∈ step.args) : P name := by
  have htexts : TextsHave P (evaluationBefore catalog stem words) :=
    Evaluation.readWords_induct (P := TextsHave P)
      (fun e word hmem h => Evaluation.textsHave_consume hmissing hnames h
        (hwords word ((List.takeWhile_sublist _).mem hmem)))
      Evaluation.textsHave_start
  rw [Plan.steps_ofWords] at hstep
  exact htexts.references step hstep name hname

end FormulaChain
