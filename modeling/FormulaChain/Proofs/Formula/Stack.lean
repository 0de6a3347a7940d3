import FormulaChain.Proofs.Formula.Name

/-!
# What taking operands does

An operator takes its operands from the top of the stack, and whatever they are, it leaves a lower
part of the stack, the operators read before it, and a counter that has not grown. The counter falls
for one kind of text only: one that is read as a name and begins with the stem (`GivesBack`).

A property that one operand keeps is kept by all operands of an operator (`takeOperands_induct`),
and one that a word keeps is kept by all words of a formula (`readWords_induct`).
-/

namespace FormulaChain

/-- The text is read as a name and begins with the stem: when it is taken from the stack, the
counter falls. -/
def GivesBack (stem text : String) : Prop :=
  withoutClosing? text = none ∧ Single.ofText? text = none ∧ hasStem stem text = true

instance (stem text : String) : Decidable (GivesBack stem text) :=
  inferInstanceAs (Decidable (_ ∧ _ ∧ _))

theorem not_givesBack_of_not_hasStem {stem text : String} (h : hasStem stem text = false) :
    ¬ GivesBack stem text := by
  rintro ⟨-, -, hs⟩
  rw [h] at hs
  cases hs

/-- With a plain stem every result that is taken gives its number back. -/
theorem PlainStem.givesBack {stem : String} (h : PlainStem stem) (n : Nat) :
    GivesBack stem (syntheticName stem n) :=
  ⟨withoutClosing?_eq_none (h.closing_notMem n), h.noNumeral n, hasStem_syntheticName stem n⟩

/-! ### Vector literals -/

theorem takeTop_suffix (stack : List StackEntry) : (takeTop stack).2 <:+ stack := by
  cases stack with
  | nil => exact List.suffix_rfl
  | cons entry below => exact List.suffix_cons entry below

theorem takeOpening_suffix (stack : List StackEntry) : (takeOpening stack).2 <:+ stack := by
  cases stack with
  | nil => exact List.suffix_rfl
  | cons entry below =>
    by_cases h : entry.text = "("
    · simp [takeOpening, h]
    · simp [takeOpening, h]

theorem takeFirst_suffix (stack : List StackEntry) : (takeFirst stack).2.2 <:+ stack := by
  cases stack with
  | nil => exact List.suffix_rfl
  | cons entry below =>
    simp only [takeFirst, takeTop]
    split
    · exact List.suffix_cons entry below
    · exact (takeOpening_suffix below).trans (List.suffix_cons entry below)

theorem takeLast_suffix (fused : String) (stack : List StackEntry) :
    (takeLast fused stack).2.2 <:+ stack := by
  unfold takeLast
  split
  · exact takeTop_suffix stack
  · exact List.suffix_rfl

/-- A vector literal takes entries from the top of the stack only. -/
theorem takeVector_suffix (fused : String) (stack : List StackEntry) :
    (takeVector fused stack).2.2 <:+ stack := by
  simp only [takeVector]
  exact (takeFirst_suffix _).trans ((takeTop_suffix _).trans (takeLast_suffix fused stack))

namespace Evaluation

variable {stem : String} {operation : Operation} {arity : Nat}

/-! ### One operand -/

theorem resolve_vector {e : Evaluation} {text fused : String}
    (h : withoutClosing? text = some fused) :
    e.resolve stem text = (.vector (takeVector fused e.stack).1,
      { e with
        stack := (takeVector fused e.stack).2.2
        diagnostics := e.diagnostics ++ (takeVector fused e.stack).2.1 }) := by
  simp [resolve, h]

theorem resolve_scalar {e : Evaluation} {text : String} {value : Single}
    (h : withoutClosing? text = none) (hv : Single.ofText? text = some value) :
    e.resolve stem text = (.scalar value, e) := by
  simp [resolve, h, hv]

/-- A name with the stem gives its number back. -/
theorem resolve_of_givesBack {e : Evaluation} {text : String} (h : GivesBack stem text) :
    e.resolve stem text = (.reference text, { e with counter := e.counter - 1 }) := by
  simp [resolve, h.1, h.2.1, h.2.2]

theorem resolve_name {e : Evaluation} {text : String} (h : withoutClosing? text = none)
    (hv : Single.ofText? text = none) (hs : hasStem stem text = false) :
    e.resolve stem text = (.reference text, e) := by
  simp [resolve, h, hv, hs]

/-- No other text changes the counter. -/
theorem resolve_counter_of_not_givesBack {e : Evaluation} {text : String}
    (h : ¬ GivesBack stem text) : (e.resolve stem text).2.counter = e.counter := by
  cases hc : withoutClosing? text with
  | some fused => rw [resolve_vector hc]
  | none =>
    cases hv : Single.ofText? text with
    | some value => rw [resolve_scalar hc hv]
    | none =>
      cases hs : hasStem stem text with
      | false => rw [resolve_name hc hv hs]
      | true => exact absurd ⟨hc, hv, hs⟩ h

/-- Only literals take more from the stack, and only they are reported. -/
theorem resolve_of_not_closing {e : Evaluation} {text : String} (h : withoutClosing? text = none) :
    (e.resolve stem text).2.stack = e.stack ∧
      (e.resolve stem text).2.diagnostics = e.diagnostics := by
  cases hv : Single.ofText? text with
  | some value => simp [resolve_scalar h hv]
  | none =>
    cases hs : hasStem stem text with
    | true => simp [resolve_of_givesBack ⟨h, hv, hs⟩]
    | false => simp [resolve_name h hv hs]

/-- Reports are added, never dropped. -/
theorem resolve_diagnostics (e : Evaluation) (text : String) :
    e.diagnostics <+: (e.resolve stem text).2.diagnostics := by
  cases hc : withoutClosing? text with
  | none => rw [(resolve_of_not_closing hc).2]
  | some fused =>
    rw [resolve_vector hc]
    exact List.prefix_append _ _

theorem resolve_steps (e : Evaluation) (text : String) :
    (e.resolve stem text).2.steps = e.steps := by
  unfold resolve
  split
  · rfl
  · split
    · rfl
    · dsimp only
      split <;> rfl

theorem resolve_suffix (e : Evaluation) (text : String) :
    (e.resolve stem text).2.stack <:+ e.stack := by
  unfold resolve
  split
  · exact takeVector_suffix _ e.stack
  · split
    · exact List.suffix_rfl
    · dsimp only
      split <;> exact List.suffix_rfl

@[simp]
theorem takeOperand_nil {e : Evaluation} (h : e.stack = []) (taken : List Operand) :
    e.takeOperand stem operation arity taken =
      (.missing, e.report (underflow operation arity taken)) := by
  simp [takeOperand, h]

theorem takeOperand_cons {e : Evaluation} {entry : StackEntry} {below : List StackEntry}
    (h : e.stack = entry :: below) (taken : List Operand) :
    e.takeOperand stem operation arity taken =
      ({ e with stack := below } : Evaluation).resolve stem entry.text := by
  simp [takeOperand, h]

theorem takeOperand_steps (e : Evaluation) (taken : List Operand) :
    (e.takeOperand stem operation arity taken).2.steps = e.steps := by
  unfold takeOperand
  split
  · rw [resolve_steps]
  · rfl

theorem takeOperand_diagnostics (e : Evaluation) (taken : List Operand) :
    e.diagnostics <+: (e.takeOperand stem operation arity taken).2.diagnostics := by
  cases hs : e.stack with
  | nil =>
    rw [takeOperand_nil hs]
    exact List.prefix_append _ _
  | cons entry below =>
    rw [takeOperand_cons hs]
    exact resolve_diagnostics ({ e with stack := below } : Evaluation) entry.text

theorem takeOperand_suffix (e : Evaluation) (taken : List Operand) :
    (e.takeOperand stem operation arity taken).2.stack <:+ e.stack := by
  unfold takeOperand
  split
  · next entry below h =>
    rw [h]
    exact (resolve_suffix _ _).trans (List.suffix_cons entry below)
  · exact List.suffix_rfl

/-! ### All operands -/

/-- What each operand keeps, all operands keep. -/
theorem takeOperands_induct {P : Evaluation → Prop}
    (step : ∀ e taken, P e → P (e.takeOperand stem operation arity taken).2) :
    ∀ (count : Nat) (taken : List Operand) (e : Evaluation), P e →
      P (e.takeOperands stem operation arity count taken).2 := by
  intro count
  induction count with
  | zero => exact fun _ _ h => h
  | succ count ih => exact fun taken e h => ih _ _ (step e taken h)

theorem takeOperands_steps (e : Evaluation) (count : Nat) (taken : List Operand) :
    (e.takeOperands stem operation arity count taken).2.steps = e.steps :=
  takeOperands_induct (P := fun e' => e'.steps = e.steps)
    (fun e' taken h => (takeOperand_steps e' taken).trans h) count taken e rfl

/-- Operands are taken from the top of the stack only. -/
theorem takeOperands_suffix (e : Evaluation) (count : Nat) (taken : List Operand) :
    (e.takeOperands stem operation arity count taken).2.stack <:+ e.stack :=
  takeOperands_induct (P := fun e' => e'.stack <:+ e.stack)
    (fun e' taken h => (takeOperand_suffix e' taken).trans h) count taken e List.suffix_rfl

theorem takeOperands_diagnostics (e : Evaluation) (count : Nat) (taken : List Operand) :
    e.diagnostics <+: (e.takeOperands stem operation arity count taken).2.diagnostics :=
  takeOperands_induct (P := fun e' => e.diagnostics <+: e'.diagnostics)
    (fun e' taken h => h.trans (takeOperand_diagnostics e' taken)) count taken e List.prefix_rfl

theorem collectArgs_steps (e : Evaluation) :
    (e.collectArgs stem operation arity).2.steps = e.steps :=
  takeOperands_steps e arity []

/-! ### Words -/

theorem consume_operator {catalog : Catalog} {e : Evaluation} {word : String} {spec : OperatorSpec}
    (h : catalog.lookup word .either = some spec) :
    e.consume catalog stem word =
      (e.collectArgs stem spec.operation spec.arity).2.emit stem spec.operation
        (e.collectArgs stem spec.operation spec.arity).1 := by
  simp [consume, h]

theorem consume_operand {catalog : Catalog} {e : Evaluation} {word : String}
    (h : catalog.lookup word .either = none) :
    e.consume catalog stem word = e.push (.word word) := by
  simp [consume, h]

@[simp]
theorem readWords_nil (catalog : Catalog) (e : Evaluation) : e.readWords catalog stem [] = e := rfl

@[simp]
theorem readWords_cons (catalog : Catalog) (e : Evaluation) (word : String) (words : List String) :
    e.readWords catalog stem (word :: words) =
      (e.consume catalog stem word).readWords catalog stem words := rfl

theorem readWords_append (catalog : Catalog) (e : Evaluation) (words more : List String) :
    e.readWords catalog stem (words ++ more) =
      (e.readWords catalog stem words).readWords catalog stem more := by
  simp [readWords]

/-- What each word keeps, all words keep. -/
theorem readWords_induct {catalog : Catalog} {P : Evaluation → Prop} {words : List String}
    (step : ∀ e word, word ∈ words → P e → P (e.consume catalog stem word)) {e : Evaluation}
    (h : P e) : P (e.readWords catalog stem words) := by
  induction words generalizing e with
  | nil => exact h
  | cons word words ih =>
    exact ih (fun e w hw => step e w (List.mem_cons_of_mem _ hw))
      (step e word List.mem_cons_self h)

/-- Words that are no operators wait, and nothing is said about them. -/
theorem readWords_operands {catalog : Catalog} {words : List String}
    (h : ∀ word ∈ words, catalog.lookup word .either = none) (e : Evaluation) :
    e.readWords catalog stem words = { e with stack := (words.map .word).reverse ++ e.stack } := by
  induction words generalizing e with
  | nil => rfl
  | cons word words ih =>
    rw [List.forall_mem_cons] at h
    rw [readWords_cons, consume_operand h.1, ih h.2]
    simp [push]

theorem consume_diagnostics (catalog : Catalog) (e : Evaluation) (word : String) :
    e.diagnostics <+: (e.consume catalog stem word).diagnostics := by
  cases hl : catalog.lookup word .either with
  | none =>
    rw [consume_operand hl]
    exact List.prefix_rfl
  | some spec =>
    rw [consume_operator hl]
    exact takeOperands_diagnostics e spec.arity []

theorem readWords_diagnostics (catalog : Catalog) (e : Evaluation) (words : List String) :
    e.diagnostics <+: (e.readWords catalog stem words).diagnostics :=
  readWords_induct (P := fun e' => e.diagnostics <+: e'.diagnostics)
    (fun e' word _ h => h.trans (consume_diagnostics catalog e' word)) List.prefix_rfl

end Evaluation

end FormulaChain
