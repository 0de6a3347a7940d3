import FormulaChain.Proofs.Formula.Expression
import FormulaChain.Proofs.Sink.Recording

/-!
# Compiling undoes postfix order

The nodes of a compilation hold an expression once more: each operand that names a result stands for
the latest earlier node that wrote this name (`readOperand`). Reading the last node back in this way
gives the expression that the formula was written from (`readBack_compile`).

The names of results are used again for later operands, so that what a name stands for depends on
where it is read. The invariant is about several expressions at once (`ReadsTo`): whatever waits
below and whichever number is free, their results get the numbers from there on, the operators added
write no lower name, and an operator that takes them all finds its operands in order and frees the
numbers again.
-/

namespace FormulaChain

/-- An expression over operations and resolved operands. -/
inductive Term where
  /-- An operand. -/
  | operand (operand : Operand)
  /-- An operation on expressions. -/
  | apply (operation : Operation) (args : List Term)

/-- What an operand stands for after some operators, the latest first: the name of a result for the
latest operator that wrote it, all else for itself. -/
def readOperand (stem : String) : List Step → Operand → Term
  | [], operand => .operand operand
  | step :: earlier, operand =>
    if hasStem stem step.resultName = true ∧ operand = .reference step.resultName then
      .apply step.operation (step.args.map (readOperand stem earlier))
    else readOperand stem earlier operand

/-- What the last of some operators computes. -/
def readBack (stem : String) (steps : List Step) : Option Term :=
  match steps.reverse with
  | [] => none
  | last :: earlier =>
    some (.apply last.operation (last.args.map (readOperand stem earlier)))

/-- What an expression says, its spelling aside. -/
def Expression.term {stem : String} : Expression stem → Term
  | .leaf operand => .operand operand.operand
  | .apply operator args => .apply operator.spec.operation (List.ofFn fun i => (args i).term)

variable {stem : String}

/-! ### Reading operands back -/

theorem readOperand_append {later earlier : List Step} {operand : Operand}
    (h : ∀ step ∈ later, operand ≠ .reference step.resultName) :
    readOperand stem (later ++ earlier) operand = readOperand stem earlier operand := by
  induction later with
  | nil => rfl
  | cons step later ih =>
    rw [List.forall_mem_cons] at h
    rw [List.cons_append, readOperand, if_neg fun hw => h.1 hw.2, ih h.2]

/-- A leaf stands for itself. -/
theorem readOperand_leaf (leaf : Leaf stem) (steps : List Step) :
    readOperand stem steps leaf.operand = .operand leaf.operand := by
  induction steps with
  | nil => rfl
  | cons step steps ih =>
    rw [readOperand, if_neg, ih]
    rintro ⟨hs, heq⟩
    cases leaf with
    | number word => cases heq
    | vector openingApart closingApart x y z => cases heq
    | name word =>
      have hname : word.text = step.resultName := Operand.reference.inj heq
      rw [← hname, word.noStem] at hs
      cases hs

/-! ### What waits for expressions -/

namespace Expression

/-- How many results an expression leaves on the stack. -/
def results : Expression stem → Nat
  | .leaf _ => 0
  | .apply _ _ => 1

/-- What an operator gets for an expression that was read when a number was free. -/
def taken (number : Nat) : Expression stem → Operand
  | .leaf operand => operand.operand
  | .apply _ _ => .reference (syntheticName stem number)

/-- How many results some expressions leave on the stack. -/
def resultsOf : List (Expression stem) → Nat
  | [] => 0
  | t :: earlier => t.results + resultsOf earlier

/-- What an operator gets for expressions, the latest first, that were read when a number was
free. -/
def takenOf (number : Nat) : List (Expression stem) → List Operand
  | [] => []
  | t :: earlier => t.taken (number + resultsOf earlier) :: takenOf number earlier

@[simp]
theorem resultsOf_nil : resultsOf ([] : List (Expression stem)) = 0 := rfl

theorem resultsOf_cons (t : Expression stem) (ts : List (Expression stem)) :
    resultsOf (t :: ts) = t.results + resultsOf ts := rfl

/-- Results that wait have numbers below the one that is free after them. -/
theorem taken_ne {t : Expression stem} {number n : Nat} (h : number + t.results ≤ n) :
    t.taken number ≠ .reference (syntheticName stem n) := by
  cases t with
  | leaf operand =>
    cases operand with
    | number word => exact Operand.noConfusion
    | vector openingApart closingApart x y z => exact Operand.noConfusion
    | name word =>
      intro heq
      exact ne_syntheticName_of_not_hasStem word.noStem n (Operand.reference.inj heq)
  | apply operator args =>
    intro heq
    have hn : number = n := syntheticName_injective stem (Operand.reference.inj heq)
    simp only [results] at h
    omega

theorem ne_of_mem_takenOf {ts : List (Expression stem)} {number n : Nat}
    (h : number + resultsOf ts ≤ n) {operand : Operand} (hmem : operand ∈ takenOf number ts) :
    operand ≠ .reference (syntheticName stem n) := by
  induction ts with
  | nil => cases hmem
  | cons t ts ih =>
    rw [resultsOf_cons] at h
    rcases List.mem_cons.mp hmem with rfl | hmem
    · exact taken_ne (by omega)
    · exact ih (by omega) hmem

end Expression

open Expression Evaluation

/-! ### Reading expressions -/

/-- Operators that carry out some expressions, the latest first, read when a number was free. -/
structure CarriesOut (ts : List (Expression stem)) (number : Nat) (new : List Step) : Prop where
  /-- One operator for each of theirs, in postfix order. -/
  operations : new.map (·.operation) = (ts.reverse.map Expression.operations).flatten
  /-- They write no name with a lower number. -/
  names : ∀ step ∈ new, ∃ n, number ≤ n ∧ step.resultName = syntheticName stem n
  /-- The operator of an application comes last, under the number that was free before it. -/
  lastName : ∀ t ∈ ts.head?, t.results = 1 → ∃ front last, new = front ++ [last] ∧
    last.resultName = syntheticName stem (number + resultsOf ts.tail)
  /-- What is left on the stack for the expressions stands for them. -/
  readsBack : ∀ earlier, (takenOf number ts).map (readOperand stem (new.reverse ++ earlier)) =
    ts.map term

/-- Some expressions, the latest first, were read from one state to another. -/
structure ReadsTo (ts : List (Expression stem)) (e e' : Evaluation) : Prop where
  /-- Each result has taken a number. -/
  counter : e'.counter = e.counter + resultsOf ts
  /-- Nothing was reported. -/
  diagnostics : e'.diagnostics = e.diagnostics
  /-- Operators were added that carry the expressions out. -/
  steps : ∃ new, e'.steps = e.steps ++ new ∧ CarriesOut ts e.counter new
  /-- An operator that takes as many operands finds them in order and frees their numbers. -/
  takes : ∀ (operation : Operation) (arity : Nat) (taken : List Operand) (f : Evaluation),
    f.stack = e'.stack → f.takeOperands stem operation arity ts.length taken =
      (taken ++ takenOf e.counter ts,
        { f with stack := e.stack, counter := f.counter - resultsOf ts })

theorem readsTo_nil (e : Evaluation) : ReadsTo ([] : List (Expression stem)) e e where
  counter := rfl
  diagnostics := rfl
  steps := ⟨[], by simp, rfl, fun _ h => absurd h List.not_mem_nil,
    fun _ h => absurd h (Option.not_mem_none _), fun _ => rfl⟩
  takes := by
    intro operation arity taken f hf
    simp [takeOperands, takenOf, resultsOf, ← hf]

/-- One more expression after others. -/
theorem ReadsTo.cons {ts : List (Expression stem)} {t : Expression stem} {e e₁ e' : Evaluation}
    (hts : ReadsTo ts e e₁) (ht : ReadsTo [t] e₁ e') : ReadsTo (t :: ts) e e' := by
  have hone : resultsOf [t] = t.results := by simp [resultsOf]
  obtain ⟨old, hold, hcarries⟩ := hts.steps
  obtain ⟨new, hnew, hcarry⟩ := ht.steps
  refine ⟨?_, ht.diagnostics.trans hts.diagnostics, ⟨old ++ new, ?_, ?_, ?_, ?_, ?_⟩, ?_⟩
  · rw [ht.counter, hts.counter, hone, resultsOf_cons]
    omega
  · rw [hnew, hold, List.append_assoc]
  · rw [List.map_append, hcarries.operations, hcarry.operations]
    simp
  · intro step hmem
    rcases List.mem_append.mp hmem with hmem | hmem
    · exact hcarries.names step hmem
    · obtain ⟨n, hn, hname⟩ := hcarry.names step hmem
      rw [hts.counter] at hn
      exact ⟨n, by omega, hname⟩
  · intro t' ht' hresults
    obtain ⟨front, last, rfl, hname⟩ := hcarry.lastName t' ht' hresults
    refine ⟨old ++ front, last, (List.append_assoc _ _ _).symm, ?_⟩
    rw [hname, hts.counter]
    rfl
  · intro earlier
    have hfirst := hcarry.readsBack (old.reverse ++ earlier)
    have hothers := hcarries.readsBack earlier
    simp only [takenOf, List.map_cons, List.map_nil, List.cons.injEq, and_true] at hfirst
    rw [List.reverse_append, List.append_assoc, takenOf, List.map_cons, List.map_cons, ← hfirst,
      ← hothers, hts.counter]
    congr 1
    -- the operators of the later expression write no name that the others wait under
    refine List.map_congr_left fun operand hmem => readOperand_append fun step hstep => ?_
    obtain ⟨n, hn, hname⟩ := hcarry.names step (List.mem_reverse.mp hstep)
    rw [hname]
    exact ne_of_mem_takenOf (by rw [← hts.counter]; exact hn) hmem
  · intro operation arity taken f hf
    have hlast := ht.takes operation arity taken f hf
    have hunfold : f.takeOperands stem operation arity (t :: ts).length taken =
        (f.takeOperands stem operation arity [t].length taken).2.takeOperands stem operation arity
          ts.length (f.takeOperands stem operation arity [t].length taken).1 := rfl
    have hothers := hts.takes operation arity (taken ++ takenOf e₁.counter [t])
      { f with stack := e₁.stack, counter := f.counter - resultsOf [t] } rfl
    rw [hunfold, hlast]
    refine hothers.trans ?_
    simp [takenOf, hts.counter, hone, resultsOf_cons, Nat.sub_sub]

/-- A leaf is read. -/
theorem readsTo_leaf (leaf : Leaf stem) (e : Evaluation) :
    ReadsTo [.leaf leaf] e (e.readWords .builtin stem leaf.words) := by
  rw [readWords_operands (fun word hmem => (leaf.operandWord_of_mem hmem).noOperator)]
  refine ⟨rfl, rfl, ⟨[], by simp, rfl, fun _ h => absurd h List.not_mem_nil, ?_,
    fun earlier => ?_⟩, ?_⟩
  · rintro t ⟨⟩ hresults
    cases hresults
  · simp [takenOf, taken, term, readOperand_leaf]
  · intro operation arity taken f hf
    simp only [List.length_singleton, takeOperands]
    rw [takeOperand_leaf leaf hf]
    rfl

/-- The operands of an operator have been read, and the operator is. -/
theorem readsTo_apply (hs : PlainStem stem) {operator : OperatorWord}
    {args : Fin operator.spec.arity → Expression stem} {e e₁ : Evaluation}
    (h : ReadsTo (List.ofFn args).reverse e e₁) :
    ReadsTo [.apply operator args] e (e₁.consume .builtin stem operator.text) := by
  obtain ⟨new, hnew, hcarries⟩ := h.steps
  have hlength : (List.ofFn args).reverse.length = operator.spec.arity := by simp
  have hcollect : e₁.collectArgs stem operator.spec.operation operator.spec.arity =
      ((takenOf e.counter (List.ofFn args).reverse).reverse,
        { e₁ with stack := e.stack, counter := e.counter }) := by
    have htakes := h.takes operator.spec.operation operator.spec.arity [] e₁ rfl
    rw [hlength] at htakes
    simp [collectArgs, htakes, h.counter]
  rw [consume_operator operator.found, hcollect]
  let step : Step := ⟨operator.spec.operation,
    (takenOf e.counter (List.ofFn args).reverse).reverse, syntheticName stem e.counter⟩
  refine ⟨rfl, h.diagnostics, ⟨new ++ [step], ?_, ?_, ?_, ?_, ?_⟩, ?_⟩
  · simp only [emit, hnew, List.append_assoc]
    rfl
  · rw [List.map_append, hcarries.operations]
    simp [operations, List.map_ofFn, Function.comp_def, step]
  · intro step' hmem
    rcases List.mem_append.mp hmem with hmem | hmem
    · exact hcarries.names step' hmem
    · rw [List.mem_singleton.mp hmem]
      exact ⟨e.counter, Nat.le_refl _, rfl⟩
  · exact fun _ _ _ => ⟨new, step, rfl, rfl⟩
  · intro earlier
    have hargs := congrArg List.reverse (hcarries.readsBack earlier)
    have hread : readOperand stem ((new ++ [step]).reverse ++ earlier)
        (.reference (syntheticName stem e.counter)) =
          .apply step.operation (step.args.map (readOperand stem (new.reverse ++ earlier))) := by
      rw [List.reverse_concat, List.cons_append, readOperand,
        if_pos ⟨hasStem_syntheticName stem _, rfl⟩]
    simp only [takenOf, taken, resultsOf_nil, Nat.add_zero, List.map_cons, List.map_nil, hread]
    simpa [step, term, List.map_ofFn, Function.comp_def] using hargs
  · intro operation arity taken f hf
    simp only [List.length_singleton, takeOperands]
    rw [takeOperand_cons hf, StackEntry.text, resolve_of_givesBack (hs.givesBack e.counter)]
    rfl

/-- Expressions that are read one by one are read together. -/
theorem readsTo_all {ts : List (Expression stem)}
    (h : ∀ t ∈ ts, ∀ e, ReadsTo [t] e (e.readWords .builtin stem t.words)) (e : Evaluation) :
    ReadsTo ts e (e.readWords .builtin stem (ts.reverse.map words).flatten) := by
  induction ts with
  | nil => exact readsTo_nil e
  | cons t ts ih =>
    rw [List.forall_mem_cons] at h
    have hlast := h.1 (e.readWords .builtin stem (ts.reverse.map words).flatten)
    rw [← readWords_append] at hlast
    simpa using (ih h.2).cons hlast

/-- **An expression is read**, whatever was read before. -/
theorem readsTo_words (hs : PlainStem stem) (t : Expression stem) (e : Evaluation) :
    ReadsTo [t] e (e.readWords .builtin stem t.words) := by
  induction t generalizing e with
  | leaf operand => exact readsTo_leaf operand e
  | apply operator args ih =>
    have hargs : ∀ t ∈ (List.ofFn args).reverse, ∀ e,
        ReadsTo [t] e (e.readWords .builtin stem t.words) := by
      intro t hmem
      obtain ⟨i, rfl⟩ := List.mem_ofFn.mp (List.mem_reverse.mp hmem)
      exact ih i
    have hall := readsTo_apply hs (readsTo_all hargs e)
    rw [List.reverse_reverse, List.map_ofFn, Function.comp_def] at hall
    rw [words, readWords_append, readWords_cons, readWords_nil]
    exact hall

/-! ### Compilations -/

/-- The plan of the formula of an expression. -/
theorem Plan.ofFormula_formula (hs : PlainStem stem) (t : Expression stem) :
    ∃ new, CarriesOut [t] 0 new ∧
      Plan.ofFormula .builtin stem t.formula = ⟨new, [], .finished, none⟩ := by
  have hread := readsTo_words hs t start
  obtain ⟨new, hnew, hcarries⟩ := hread.steps
  have harrow : resultArrow ∉ t.words := fun hmem => (t.isToken_of_mem hmem).2 rfl
  have hbefore : t.words.takeWhile (· ≠ resultArrow) = t.words := by
    rw [List.takeWhile_eq_self_iff]
    exact fun word hmem => decide_eq_true (t.isToken_of_mem hmem).2
  refine ⟨new, hcarries, ?_⟩
  rw [Plan.ofFormula, t.tokenize_formula, Plan.ofWords, if_neg harrow, Plan.evaluationBefore,
    hbefore, hnew, hread.diagnostics]
  rfl

/-- The last operator of an application reads back as the application. -/
theorem CarriesOut.readBack_eq {operator : OperatorWord}
    {args : Fin operator.spec.arity → Expression stem} {new : List Step}
    (h : CarriesOut [.apply operator args] 0 new) :
    readBack stem new = some (Expression.apply operator args).term := by
  obtain ⟨front, last, rfl, hname⟩ := h.lastName _ rfl rfl
  have hread : readOperand stem ((front ++ [last]).reverse ++ [])
      (.reference (syntheticName stem 0)) = (Expression.apply operator args).term :=
    (List.cons.inj (h.readsBack [])).1
  have hlast : last.resultName = syntheticName stem 0 := hname
  rw [List.append_nil, List.reverse_concat, readOperand, hlast,
    if_pos ⟨hasStem_syntheticName stem 0, rfl⟩] at hread
  rw [readBack, List.reverse_concat, ← hread]

/-- **Compiling undoes postfix order.** The formula of an expression with at least one operator
compiles without a report to one node for each operator, in postfix order, and the last node reads
back as the expression. -/
theorem readBack_compile (hvalid : Settings.validStem stem = true) (hs : PlainStem stem)
    (t : Expression stem) (hone : t.operations ≠ []) (addFrame : Bool) :
    (∀ r, ∃ out, (Recording.sink.compile .builtin ⟨t.formula, stem, addFrame⟩ r).1 = .ok out) ∧
      ∀ {σ N F E : Type} (sink : GraphSink σ N F E) (state : σ) (out : CompileOutput N F),
        (sink.compile .builtin ⟨t.formula, stem, addFrame⟩ state).1 = .ok out →
          out.status = .finished ∧ out.diagnostics = [] ∧
            out.nodes.map (·.operation) = t.operations ∧
            readBack stem (out.nodes.map EmittedNode.step) = some t.term := by
  refine ⟨Recording.exists_compile hvalid, fun sink state out hout => ?_⟩
  obtain ⟨new, hcarries, hplan⟩ := Plan.ofFormula_formula hs t
  obtain ⟨hstatus, hdiagnostics, hnodes⟩ := GraphSink.compile_nodes hout
  rw [hplan] at hstatus hdiagnostics hnodes
  refine ⟨hstatus, hdiagnostics, ?_, ?_⟩
  · have hoperations := congrArg (List.map Step.operation) hnodes
    rw [List.map_map] at hoperations
    refine hoperations.trans (hcarries.operations.trans ?_)
    simp
  · rw [hnodes]
    cases t with
    | leaf operand => exact absurd rfl hone
    | apply operator args => exact hcarries.readBack_eq

/-- The cosine of the sine of one, plus the length of a sum of vectors. -/
def cosineAndLength : Expression "mf_temp" :=
  let one : NumberWord := ⟨"1", .finite false 1065353216, by decide⟩
  .apply (.ofSpelling "+" ⟨["+", "add"], .scalar .add, 2⟩ (by decide) (by decide)) fun i =>
    if i.val = 0 then
      .apply (.ofSpelling "cos" ⟨["cos", "cosine"], .scalar .cosine, 1⟩ (by decide) (by decide))
        fun _ => .apply (.ofSpelling "sin" ⟨["sin", "sine"], .scalar .sine, 1⟩ (by decide)
          (by decide)) fun _ => .leaf (.number one)
    else
      .apply (.ofSpelling "length" ⟨["length"], .vector .length, 1⟩ (by decide) (by decide))
        fun _ => .apply (.ofSpelling "vadd" ⟨["v+", "vadd"], .vector .add, 2⟩ (by decide)
          (by decide)) fun j =>
            if j.val = 0 then .leaf (.vector true false one one one)
            else .leaf (.name ⟨"weight", by decide, by decide, by decide +kernel, by decide,
              by decide, by decide⟩)

/-- The five nodes of a formula share two names, and still the last reads back as the whole. -/
theorem readBack_compile_cosineAndLength :
    ∃ out, (Recording.sink.compile .builtin
        ⟨"1 sin cos ( 1 1 1) weight vadd length +", "mf_temp", true⟩ .empty).1 = .ok out ∧
      out.status = .finished ∧ out.diagnostics = [] ∧
      out.nodes.map (·.operation) = [.scalar .sine, .scalar .cosine, .vector .add, .vector .length,
        .scalar .add] ∧
      readBack "mf_temp" (out.nodes.map EmittedNode.step) = some cosineAndLength.term := by
  have hplain : PlainStem "mf_temp" :=
    plainStem_of_mem (c := '_') (by decide) (by decide) (by decide) (by decide)
  have hformula : cosineAndLength.formula = "1 sin cos ( 1 1 1) weight vadd length +" := by
    decide +kernel
  obtain ⟨hout, hread⟩ := readBack_compile (by decide) hplain cosineAndLength
    (by decide +kernel) true
  rw [hformula] at hout hread
  obtain ⟨out, hout⟩ := hout .empty
  obtain ⟨hstatus, hdiagnostics, hoperations, hback⟩ := hread Recording.sink .empty out hout
  exact ⟨out, hout, hstatus, hdiagnostics, hoperations, hback⟩

end FormulaChain
