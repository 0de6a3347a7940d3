import FormulaChain.Proofs.Formula.Literal
import FormulaChain.Proofs.Formula.Numbering
import FormulaChain.Proofs.Formula.Shift

/-!
# Formulas on top of others

A formula that reads without a report takes nothing from the stack but what it has put there, nor
does it look further down. So it reads the same on top of what another formula has left
(`readWords_atop`): its operators follow those of the other, and the names of its results have the
numbers that follow the counter of the other.
-/

namespace FormulaChain

/-- What waits, under the name and the number it has on top of what was read before. -/
def StackEntry.atop (stem : String) (base : Evaluation) : StackEntry → StackEntry
  | .word text => .word text
  | .result node name => .result (node + base.steps.length) (shiftName stem base.counter name)

/-- A stack on top of that of what was read before. -/
def stackAtop (stem : String) (base : Evaluation) (stack : List StackEntry) : List StackEntry :=
  stack.map (·.atop stem base) ++ base.stack

/-- What was read, on top of what was read before. -/
def Evaluation.atop (stem : String) (e base : Evaluation) : Evaluation where
  stack := stackAtop stem base e.stack
  counter := e.counter + base.counter
  steps := base.steps ++ e.steps.map (·.shift stem base.counter)
  diagnostics := base.diagnostics ++ e.diagnostics

variable {stem : String} {base : Evaluation}

theorem Evaluation.atop_start : Evaluation.start.atop stem base = base := by
  simp [atop, start, stackAtop]

/-- An entry that is read as no name of a result is read as alone. -/
theorem StackEntry.text_atop {entry : StackEntry} (h : ∀ n, entry.text ≠ syntheticName stem n) :
    (entry.atop stem base).text = entry.text := by
  cases entry with
  | word text => rfl
  | result node name => exact shiftName_of_ne h _

/-! ### Vector literals -/

namespace PlainStem

variable (hplain : PlainStem stem)

include hplain

theorem ne_of_numeral {text : String} {value : Single} (h : Single.ofText? text = some value)
    (n : Nat) : text ≠ syntheticName stem n := by
  rintro rfl
  rw [hplain.noNumeral n] at h
  cases h

theorem ne_of_opening {text fused : String} (h : withoutOpening? text = some fused) (n : Nat) :
    text ≠ syntheticName stem n := by
  rintro rfl
  rw [withoutOpening?_eq_none (hplain.opening_notMem n)] at h
  cases h

/-- The top of the stack is found on top, if it is a numeral. -/
theorem takeTop_atop {stack : List StackEntry} (h : (component (takeTop stack).1).2 = []) :
    takeTop (stackAtop stem base stack) =
      ((takeTop stack).1, stackAtop stem base (takeTop stack).2) := by
  obtain ⟨numeral, value, htext, hvalue⟩ := exists_numeral_of_component (noneMalformed_of_eq_nil h)
  cases stack with
  | nil => cases htext
  | cons entry below =>
    cases htext
    exact Prod.ext (congrArg some (entry.text_atop (hplain.ne_of_numeral hvalue))) rfl

theorem takeOpening_atop {stack : List StackEntry} (h : (takeOpening stack).1 = []) :
    takeOpening (stackAtop stem base stack) = ([], stackAtop stem base (takeOpening stack).2) := by
  cases stack with
  | nil => cases h
  | cons entry below =>
    by_cases hopening : entry.text = "("
    · have htext : (entry.atop stem base).text = "(" := by
        rw [entry.text_atop fun n => hopening ▸ (hplain.ne_opening n).symm, hopening]
      simp [takeOpening, stackAtop, htext, hopening]
    · simp [takeOpening, hopening] at h

theorem takeFirst_atop {stack : List StackEntry} (h : (takeFirst stack).2.1 = []) :
    takeFirst (stackAtop stem base stack) =
      ((takeFirst stack).1, [], stackAtop stem base (takeFirst stack).2.2) := by
  cases stack with
  | nil => cases h
  | cons entry below =>
    have hcons : stackAtop stem base (entry :: below) =
      entry.atop stem base :: stackAtop stem base below := rfl
    cases ho : withoutOpening? entry.text with
    | some fused =>
      have htext : (entry.atop stem base).text = entry.text :=
        entry.text_atop (hplain.ne_of_opening ho)
      simp only [takeFirst, takeTop, ho] at h
      simp only [takeFirst, takeTop, hcons, htext, ho, h]
    | none =>
      simp only [takeFirst, takeTop, ho, List.append_eq_nil_iff] at h
      obtain ⟨_, value, ⟨⟩, hvalue⟩ :=
        exists_numeral_of_component (noneMalformed_of_eq_nil h.2)
      have htext : (entry.atop stem base).text = entry.text :=
        entry.text_atop (hplain.ne_of_numeral hvalue)
      simp only [takeFirst, takeTop, hcons, htext, ho, hplain.takeOpening_atop h.1, h.2,
        List.append_nil]

theorem takeLast_atop {fused : String} {stack : List StackEntry}
    (h : (takeLast fused stack).2.1 = []) :
    takeLast fused (stackAtop stem base stack) =
      ((takeLast fused stack).1, [], stackAtop stem base (takeLast fused stack).2.2) := by
  unfold takeLast at h ⊢
  by_cases hfused : fused = ""
  · simp only [if_pos hfused] at h ⊢
    simp only [hplain.takeTop_atop h, h]
  · simp only [if_neg hfused] at h ⊢
    rw [h]

/-- A literal without a report is read as alone. -/
theorem takeVector_atop {fused : String} {stack : List StackEntry}
    (h : (takeVector fused stack).2.1 = []) :
    takeVector fused (stackAtop stem base stack) =
      ((takeVector fused stack).1, [], stackAtop stem base (takeVector fused stack).2.2) := by
  simp only [takeVector, List.append_eq_nil_iff] at h
  obtain ⟨⟨hz, hy⟩, hx⟩ := h
  simp only [takeVector, hplain.takeLast_atop hz, hplain.takeTop_atop hy, hplain.takeFirst_atop hx,
    hy, List.append_nil]

end PlainStem

/-! ### Operands -/

namespace Evaluation

variable {operation : Operation} {arity : Nat}

/-- What an entry is resolved to on top of others is what it is resolved to alone. -/
theorem resolve_atop (hplain : PlainStem stem) {e : Evaluation} {entry : StackEntry}
    (hn : Numbered stem e.counter (entry :: e.stack))
    (hw : ∀ text, entry = .word text → ¬ GivesBack stem text)
    (h : (e.resolve stem entry.text).2.diagnostics = []) :
    (e.atop stem base).resolve stem (entry.atop stem base).text =
      ((e.resolve stem entry.text).1.shift stem base.counter,
        (e.resolve stem entry.text).2.atop stem base) := by
  cases entry with
  | result node name =>
    obtain ⟨number, hlt, rfl, -⟩ := hn
    have hcounter : e.counter + base.counter - 1 = e.counter - 1 + base.counter := by omega
    show (e.atop stem base).resolve stem (shiftName stem base.counter _) =
      (Operand.shift _ _ (e.resolve stem (syntheticName stem number)).1,
        (e.resolve stem (syntheticName stem number)).2.atop stem base)
    rw [shiftName_syntheticName, resolve_of_givesBack (hplain.givesBack number),
      resolve_of_givesBack (hplain.givesBack (number + base.counter))]
    simp [atop, Operand.shift, hcounter]
  | word text =>
    show (e.atop stem base).resolve stem text =
      ((e.resolve stem text).1.shift stem base.counter, (e.resolve stem text).2.atop stem base)
    cases hc : withoutClosing? text with
    | some fused =>
      rw [StackEntry.text, resolve_vector hc, List.append_eq_nil_iff] at h
      rw [resolve_vector hc, resolve_vector hc]
      simp only [atop, Operand.shift, hplain.takeVector_atop h.2, h.1, h.2, List.append_nil]
    | none =>
      cases hv : Single.ofText? text with
      | some value =>
        rw [resolve_scalar hc hv, resolve_scalar hc hv]
        rfl
      | none =>
        have hs : hasStem stem text = false :=
          Bool.eq_false_iff.mpr fun hs => hw text rfl ⟨hc, hv, hs⟩
        have hname := shiftName_of_ne (ne_syntheticName_of_not_hasStem hs) base.counter
        rw [resolve_name hc hv hs, resolve_name hc hv hs, Operand.shift, hname]

/-- One operand is taken as alone, if there is one. -/
theorem takeOperand_atop (hplain : PlainStem stem) {e : Evaluation} (ho : Orderly stem e)
    {taken : List Operand}
    (h : (e.takeOperand stem operation arity taken).2.diagnostics = []) (taken' : List Operand) :
    (e.atop stem base).takeOperand stem operation arity taken' =
      ((e.takeOperand stem operation arity taken).1.shift stem base.counter,
        (e.takeOperand stem operation arity taken).2.atop stem base) := by
  cases hs : e.stack with
  | nil =>
    rw [takeOperand_nil hs, report, List.append_eq_nil_iff] at h
    cases h.2
  | cons entry below =>
    have hstack : (e.atop stem base).stack =
        entry.atop stem base :: stackAtop stem base below := by
      rw [atop, hs]
      rfl
    have hn := ho.numbered
    have hw := ho.words
    rw [hs] at hn hw
    rw [takeOperand_cons hs] at h
    rw [takeOperand_cons hs, takeOperand_cons hstack]
    exact resolve_atop hplain (e := { e with stack := below }) hn
      (fun text heq => hw text (heq ▸ List.mem_cons_self)) h

theorem takeOperands_atop (hplain : PlainStem stem) {e : Evaluation} (ho : Orderly stem e)
    {count : Nat} {taken : List Operand}
    (h : (e.takeOperands stem operation arity count taken).2.diagnostics = []) :
    (e.atop stem base).takeOperands stem operation arity count
        (taken.map (·.shift stem base.counter)) =
      ((e.takeOperands stem operation arity count taken).1.map (·.shift stem base.counter),
        (e.takeOperands stem operation arity count taken).2.atop stem base) := by
  induction count generalizing e taken with
  | zero => rfl
  | succ count ih =>
    have hfirst : (e.takeOperand stem operation arity taken).2.diagnostics = [] :=
      List.prefix_nil.mp (h ▸ takeOperands_diagnostics _ count _)
    have hrest := ih (takeOperand_orderly ho taken) h
    simp only [takeOperands, takeOperand_atop hplain ho hfirst]
    rw [List.map_append] at hrest
    exact hrest

/-- The operands of an operator are those that it takes alone, shifted. -/
theorem collectArgs_atop (hplain : PlainStem stem) {e : Evaluation} (ho : Orderly stem e)
    (h : (e.collectArgs stem operation arity).2.diagnostics = []) :
    (e.atop stem base).collectArgs stem operation arity =
      ((e.collectArgs stem operation arity).1.map (·.shift stem base.counter),
        (e.collectArgs stem operation arity).2.atop stem base) := by
  have htaken : (e.atop stem base).takeOperands stem operation arity arity [] =
      ((e.takeOperands stem operation arity arity []).1.map (·.shift stem base.counter),
        (e.takeOperands stem operation arity arity []).2.atop stem base) :=
    takeOperands_atop hplain ho h
  simp only [collectArgs, htaken, List.map_reverse]

/-! ### Words -/

/-- The next operator follows those that were read before. -/
theorem emit_atop (e : Evaluation) (args : List Operand) :
    (e.atop stem base).emit stem operation (args.map (·.shift stem base.counter)) =
      (e.emit stem operation args).atop stem base := by
  have hname : shiftName stem base.counter (syntheticName stem e.counter) =
    syntheticName stem (e.counter + base.counter) := shiftName_syntheticName _ _
  simp [emit, atop, stackAtop, StackEntry.atop, Step.shift, hname, Nat.add_comm, Nat.add_assoc]

theorem consume_atop (hplain : PlainStem stem) {catalog : Catalog} {e : Evaluation}
    (ho : Orderly stem e) {word : String} (h : (e.consume catalog stem word).diagnostics = []) :
    (e.atop stem base).consume catalog stem word =
      (e.consume catalog stem word).atop stem base := by
  cases hl : catalog.lookup word .either with
  | none =>
    rw [consume_operand hl, consume_operand hl]
    rfl
  | some spec =>
    rw [consume_operator hl] at h
    rw [consume_operator hl, consume_operator hl, collectArgs_atop hplain ho h]
    exact emit_atop _ _

/-- **A formula without reports reads on top of others as alone.** -/
theorem readWords_atop (hplain : PlainStem stem) {catalog : Catalog} {e : Evaluation}
    (ho : Orderly stem e) {words : List String}
    (hw : ∀ word ∈ words, catalog.lookup word .either = none → ¬ GivesBack stem word)
    (h : (e.readWords catalog stem words).diagnostics = []) :
    (e.atop stem base).readWords catalog stem words =
      (e.readWords catalog stem words).atop stem base := by
  induction words generalizing e with
  | nil => rfl
  | cons word words ih =>
    rw [List.forall_mem_cons] at hw
    -- no report is ever taken back, so the first word raises none if all words together do not
    have hfirst : (e.consume catalog stem word).diagnostics = [] :=
      List.prefix_nil.mp (h ▸ readWords_diagnostics catalog _ words)
    rw [readWords_cons, readWords_cons, consume_atop hplain ho hfirst]
    exact ih (consume_orderly ho hw.1) hw.2 h

end Evaluation

end FormulaChain
