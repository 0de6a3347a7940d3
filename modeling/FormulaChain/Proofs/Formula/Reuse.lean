import FormulaChain.Proofs.Formula.Release

/-!
# The numbers that results get

In a formula none of whose words begins with a plain stem, the results that wait have rising numbers
from the bottom of the stack to its top, all below the counter. As long as no vector literal is
malformed, these are all the numbers below the counter, so that a number is used again as soon as
its result is taken (`numbers_exact`). This holds between two words and also when an operator has
taken a part of its operands (`Passes`).

A malformed literal may swallow a result without giving its number back. From then on numbers are
left out, but they still rise.
-/

namespace FormulaChain

variable {catalog : Catalog} {stem : String} {words : List String} {e : Evaluation}

/-! ### Numbers on a stack -/

/-- The results that wait on a stack have these numbers, from the bottom to the top. -/
def HasNumbers (stem : String) (stack : List StackEntry) (numbers : List Nat) : Prop :=
  (waitingNames stack).reverse = numbers.map (syntheticName stem)

/-- Numbers that fall from the top down rise from the bottom up. -/
theorem Numbered.exists_hasNumbers {bound : Nat} {stack : List StackEntry}
    (h : Numbered stem bound stack) :
    ∃ numbers, HasNumbers stem stack numbers ∧ numbers.Pairwise (· < ·) ∧
      ∀ number ∈ numbers, number < bound := by
  induction stack generalizing bound with
  | nil => exact ⟨[], rfl, .nil, by simp⟩
  | cons entry below ih =>
    cases entry with
    | word text => exact ih h
    | result node name =>
      obtain ⟨number, hlt, rfl, hbelow⟩ := h
      obtain ⟨numbers, hnames, hrise, hbound⟩ := ih hbelow
      refine ⟨numbers ++ [number], ?_, ?_, ?_⟩
      · rw [HasNumbers, waitingNames_result, List.reverse_cons, hnames, List.map_append]
        rfl
      · exact List.pairwise_append.mpr
          ⟨hrise, List.pairwise_singleton _ _, fun m hm k hk =>
            List.mem_singleton.mp hk ▸ hbound m hm⟩
      · rw [List.forall_mem_append]
        exact ⟨fun m hm => (hbound m hm).trans hlt, fun k hk => List.mem_singleton.mp hk ▸ hlt⟩

theorem namesBelow_eq (stem : String) (n : Nat) :
    (namesBelow stem n).reverse = (List.range n).map (syntheticName stem) := by
  induction n with
  | zero => rfl
  | succ n ih => simp [namesBelow, ih, List.range_succ]

/-- All numbers below the counter are in use exactly if they are the numbers of the results. -/
theorem contiguous_iff_hasNumbers :
    Contiguous stem e ↔ HasNumbers stem e.stack (List.range e.counter) := by
  rw [Contiguous, HasNumbers, ← namesBelow_eq, List.reverse_inj]

/-- Results have only one list of numbers. -/
theorem HasNumbers.unique {stack : List StackEntry} {numbers numbers' : List Nat}
    (h : HasNumbers stem stack numbers) (h' : HasNumbers stem stack numbers') :
    numbers = numbers' :=
  List.map_injective_iff.mpr (syntheticName_injective stem) (h.symm.trans h')

theorem HasNumbers.length {stack : List StackEntry} {numbers : List Nat}
    (h : HasNumbers stem stack numbers) : (waitingNames stack).length = numbers.length := by
  rw [← List.length_reverse, h, List.length_map]

/-! ### States on the way -/

/-- A state in the course of reading words: after some of them, or after some of them when the
operator that follows has taken a part of its operands. -/
inductive Passes (catalog : Catalog) (stem : String) (words : List String) : Evaluation → Prop where
  /-- Between two words. -/
  | between {before : List String} (h : before <+: words) :
    Passes catalog stem words (Evaluation.start.readWords catalog stem before)
  /-- Within an operator. -/
  | within {before : List String} {word : String} {spec : OperatorSpec} {count : Nat}
    (h : before ++ [word] <+: words) (hl : catalog.lookup word .either = some spec)
    (hc : count ≤ spec.arity) :
    Passes catalog stem words ((Evaluation.start.readWords catalog stem before).takeOperands stem
      spec.operation spec.arity count []).2

section Plain

variable (hwords : ∀ word ∈ words, hasStem stem word = false)

include hwords

/-- Words that do not begin with the stem give no number back. -/
theorem orderly_between {before : List String} (h : before <+: words) :
    Orderly stem (Evaluation.start.readWords catalog stem before) :=
  Evaluation.readWords_orderly Evaluation.orderly_start fun word hword _ =>
    not_givesBack_of_not_hasStem (hwords word (h.mem hword))

theorem contiguous_between (hplain : PlainStem stem) {before : List String}
    (h : before <+: words)
    (hno : NoneMalformed (Evaluation.start.readWords catalog stem before).diagnostics) :
    Contiguous stem (Evaluation.start.readWords catalog stem before) :=
  contiguous_readWords hplain hno <| namesFresh_of_not_givesBack fun word hword _ =>
    not_givesBack_of_not_hasStem (hwords word (h.mem hword))

/-- Every state on the way is orderly. -/
theorem Passes.orderly (h : Passes catalog stem words e) : Orderly stem e := by
  cases h with
  | between h => exact orderly_between hwords h
  | within h hl hc =>
    exact Evaluation.takeOperands_orderly
      (orderly_between hwords ((List.prefix_append _ _).trans h)) _ []

end Plain

/-- Taking operands leaves all numbers below the counter in use, if only results give numbers
back. -/
theorem takeOperands_contiguous (hplain : PlainStem stem) (ho : Orderly stem e)
    (h : Contiguous stem e) {operation : Operation} {arity count : Nat}
    (hno : NoneMalformed (e.takeOperands stem operation arity count []).2.diagnostics) :
    Contiguous stem (e.takeOperands stem operation arity count []).2 := by
  obtain ⟨taken, waiting, htakes⟩ := exists_takes hplain h operation arity count hno
  have hforeign : ¬ HoldsForeign stem taken := by
    rintro ⟨text, hmem, hgives⟩
    refine ho.words text ?_ hgives
    rw [htakes.stack]
    exact List.mem_append_left _ hmem
  rw [Contiguous, htakes.counter_eq hforeign]
  exact htakes.names

/-- **In every state on the way** all numbers below the counter are in use, as long as no operand is
malformed. -/
theorem Passes.contiguous (hplain : PlainStem stem)
    (hwords : ∀ word ∈ words, hasStem stem word = false) (h : Passes catalog stem words e)
    (hno : NoneMalformed e.diagnostics) : Contiguous stem e := by
  cases h with
  | between h => exact contiguous_between hwords hplain h hno
  | within h hl hc =>
    have hbefore := (List.prefix_append _ _).trans h
    exact takeOperands_contiguous hplain (orderly_between hwords hbefore)
      (contiguous_between hwords hplain hbefore
        (hno.of_prefix (Evaluation.takeOperands_diagnostics _ _ _))) hno

/-! ### Steps -/

namespace Evaluation

theorem consume_steps (catalog : Catalog) (e : Evaluation) (word : String) :
    e.steps <+: (e.consume catalog stem word).steps := by
  cases hl : catalog.lookup word .either with
  | none => rw [consume_operand hl, push]
  | some spec =>
    rw [consume_operator hl, emit, collectArgs_steps]
    exact List.prefix_append _ _

/-- Steps stay when more words are read. -/
theorem readWords_steps (catalog : Catalog) (stem : String) (e : Evaluation)
    (words : List String) :
    e.steps <+: (e.readWords catalog stem words).steps :=
  readWords_induct (P := fun e' => e.steps <+: e'.steps)
    (fun e' word _ h => h.trans (consume_steps catalog e' word)) List.prefix_rfl

/-- An operator is carried out by the step that follows those before it, under the name that the
counter gives when it has taken its operands. -/
theorem getElem?_readWords_steps (stem : String) (before after : List String) {word : String}
    {spec : OperatorSpec} (hl : catalog.lookup word .either = some spec) :
    (start.readWords catalog stem (before ++ word :: after)).steps[
        (start.readWords catalog stem before).steps.length]? =
      some ⟨spec.operation,
        ((start.readWords catalog stem before).collectArgs stem spec.operation spec.arity).1,
        syntheticName stem ((start.readWords catalog stem before).left stem spec).counter⟩ := by
  have hsteps : (start.readWords catalog stem (before ++ [word])).steps =
      (start.readWords catalog stem before).steps ++ [⟨spec.operation,
        ((start.readWords catalog stem before).collectArgs stem spec.operation spec.arity).1,
        syntheticName stem ((start.readWords catalog stem before).left stem spec).counter⟩] := by
    rw [readWords_concat_operator hl, emit, left, collectArgs_steps]
  obtain ⟨more, hmore⟩ := readWords_steps catalog stem
    (start.readWords catalog stem (before ++ [word])) after
  rw [List.append_cons, readWords_append, ← hmore, hsteps, List.append_assoc,
    List.getElem?_append_right le_rfl, Nat.sub_self]
  rfl

end Evaluation

/-- **Synthetic names are used again exactly when their results are taken.** If the stem is plain
and no word of a formula begins with it, then in every state in which its words are read the numbers
of the results that wait rise from the bottom of the stack to its top and lie below the counter. As
long as no operand is malformed, there are as many of them as the counter says and they are the
numbers from zero on. So each operator names its result by the number of results that it leaves when
it has taken its operands. -/
theorem numbers_exact (hplain : PlainStem stem)
    (hwords : ∀ word ∈ words, hasStem stem word = false) :
    (∀ e, Passes catalog stem (words.takeWhile (· ≠ resultArrow)) e →
      ∃ numbers, HasNumbers stem e.stack numbers ∧ numbers.Pairwise (· < ·) ∧
        (∀ number ∈ numbers, number < e.counter) ∧
        (NoneMalformed e.diagnostics →
          numbers = List.range e.counter ∧ (waitingNames e.stack).length = e.counter)) ∧
    ∀ before word after spec,
      words.takeWhile (· ≠ resultArrow) = before ++ word :: after →
      catalog.lookup word .either = some spec →
      NoneMalformed ((Evaluation.start.readWords catalog stem before).left stem spec).diagnostics →
      ∃ step, (Plan.ofWords catalog stem words).steps[
          (Evaluation.start.readWords catalog stem before).steps.length]? = some step ∧
        step.operation = spec.operation ∧
        step.resultName = syntheticName stem (waitingNames
          ((Evaluation.start.readWords catalog stem before).left stem spec).stack).length := by
  have hbefore : ∀ word ∈ words.takeWhile (· ≠ resultArrow), hasStem stem word = false :=
    fun word hword => hwords word ((List.takeWhile_sublist _).subset hword)
  constructor
  · intro e hpasses
    obtain ⟨numbers, hnumbers, hrise, hbound⟩ :=
      (hpasses.orderly hbefore).numbered.exists_hasNumbers
    refine ⟨numbers, hnumbers, hrise, hbound, fun hno => ?_⟩
    have hrange := contiguous_iff_hasNumbers.mp (hpasses.contiguous hplain hbefore hno)
    rw [hrange.length, List.length_range]
    exact ⟨hnumbers.unique hrange, rfl⟩
  · intro before word after spec hsplit hl hno
    have hpasses : Passes catalog stem (words.takeWhile (· ≠ resultArrow))
        ((Evaluation.start.readWords catalog stem before).left stem spec) := by
      have hread : before ++ [word] <+: words.takeWhile (· ≠ resultArrow) :=
        ⟨after, by rw [hsplit, List.append_assoc, List.singleton_append]⟩
      exact .within hread hl le_rfl
    have hrange := contiguous_iff_hasNumbers.mp (hpasses.contiguous hplain hbefore hno)
    have hstep := Evaluation.getElem?_readWords_steps stem before after hl
    rw [← hsplit, ← Plan.evaluationBefore, ← Plan.steps_ofWords] at hstep
    refine ⟨_, hstep, rfl, ?_⟩
    rw [hrange.length, List.length_range]

/-- The product is read while the sine and the cosine wait, so that its name has the number two. -/
theorem numbers_exact_nested :
    (∀ word ∈ tokenize "1 sin 2 cos 3 4 * +", hasStem "mf_temp" word = false) ∧
      ∃ step, (Plan.ofFormula .builtin "mf_temp" "1 sin 2 cos 3 4 * +").steps[2]? =
          some step ∧
        step.operation = .scalar .multiply ∧ step.resultName = "mf_temp2" := by
  have hplain : PlainStem "mf_temp" :=
    plainStem_of_mem (c := '_') (by decide) (by decide) (by decide) (by decide)
  have hwords : ∀ word ∈ tokenize "1 sin 2 cos 3 4 * +", hasStem "mf_temp" word = false := by
    decide +kernel
  obtain ⟨hl, hlength, hno, hwaiting⟩ :
      Catalog.builtin.lookup "*" .either = some ⟨["*", "mult"], .scalar .multiply, 2⟩ ∧
      (Evaluation.start.readWords .builtin "mf_temp"
        ["1", "sin", "2", "cos", "3", "4"]).steps.length = 2 ∧
      ((Evaluation.start.readWords .builtin "mf_temp" ["1", "sin", "2", "cos", "3", "4"]).left
        "mf_temp" ⟨["*", "mult"], .scalar .multiply, 2⟩).diagnostics = [] ∧
      (waitingNames ((Evaluation.start.readWords .builtin "mf_temp"
        ["1", "sin", "2", "cos", "3", "4"]).left
          "mf_temp" ⟨["*", "mult"], .scalar .multiply, 2⟩).stack).length = 2 := by
    decide +kernel
  obtain ⟨step, hstep, hoperation, hname⟩ :=
    (numbers_exact hplain hwords).2 ["1", "sin", "2", "cos", "3", "4"] "*" ["+"]
      ⟨["*", "mult"], .scalar .multiply, 2⟩ (by decide +kernel) hl (noneMalformed_of_eq_nil hno)
  rw [hlength] at hstep
  refine ⟨hwords, step, hstep, hoperation, ?_⟩
  rw [hname, hwaiting]
  rfl

end FormulaChain
