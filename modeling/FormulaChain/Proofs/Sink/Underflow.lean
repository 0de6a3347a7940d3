import FormulaChain.Proofs.Formula.Depth
import FormulaChain.Proofs.Sink.Cancellation

/-!
# Operands that are missing

In a formula without vector literals, the nodes of a compilation have the operands that their
operators find on the stack, in the order in which they were pushed, behind one placeholder for each
that is missing. What is reported are the placeholders and, in the end, a cancellation. Which
operators lack operands can be told from the depths that the words of the formula give
(`compile_underflows`).
-/

namespace FormulaChain

namespace Plan

variable {catalog : Catalog} {stem : String} {words : List String}

/-- A plan reports what its words before the arrow do, and then a cancellation. -/
theorem diagnostics_ofWords :
    (ofWords catalog stem words).diagnostics = (evaluationBefore catalog stem words).diagnostics ++
      if (ofWords catalog stem words).status = .cancelled then [nothingToName] else [] := by
  rcases ofWords_cases catalog stem words with ⟨-, -, hplan⟩ | ⟨-, hplan⟩
  · rw [hplan]
    rfl
  · simp [hplan]

end Plan

namespace GraphSink

variable {σ N F E : Type} {sink : GraphSink σ N F E} {catalog : Catalog} {settings : Settings}
  {state : σ}

/-- The words of a formula that are read: those before the first result arrow. -/
def wordsRead (formula : String) : List String :=
  (tokenize formula).takeWhile (· ≠ resultArrow)

/-- The operators that settings ask for, each with the stack on which it is met. -/
def operatorsMet (catalog : Catalog) (settings : Settings) :
    List (OperatorSpec × List StackEntry) :=
  Evaluation.start.occurrences catalog settings.tempName (wordsRead settings.formula)

/-- **What operators get that lack operands, and what is reported about it.** If neither the stem
nor an operand before the first result arrow ends in a closing parenthesis, then each operator there
has a node with as many operands as its arity: placeholders for those that the stack lacks, then
those that are on top of it in the order in which they were pushed. Each placeholder is reported
once, and nothing else is reported but a cancellation. The height of the stack is the depth that the
words give. So a formula that is not cancelled is reported about exactly if one of its operators
meets a depth below its arity. -/
theorem compile_underflows (hvalid : settings.isValid = true)
    (hstem : withoutClosing? settings.tempName = none)
    (hwords : ∀ word ∈ wordsRead settings.formula,
      catalog.lookup word .either = none → withoutClosing? word = none)
    (hanswers : sink.answersAll (sink.callsOf catalog settings state) state = true) :
    ∃ out, sink.compile catalog settings state =
        (.ok out, sink.after (sink.callsOf catalog settings state) state) ∧
      (operatorsMet catalog settings).map (fun met => (met.1, met.2.length)) =
        catalog.depths 0 (wordsRead settings.formula) ∧
      out.nodes.map (fun node => (node.operation, node.args)) =
        (operatorsMet catalog settings).map
          (fun met => (met.1.operation, met.1.argsFrom met.2)) ∧
      out.nodes.map (·.args.length) =
        (catalog.depths 0 (wordsRead settings.formula)).map (·.1.arity) ∧
      out.diagnostics =
        (operatorsMet catalog settings).flatMap (fun met => met.1.underflows met.2) ++
          (if out.status = .cancelled then [Plan.nothingToName] else []) ∧
      (out.status ≠ .cancelled → (out.diagnostics = [] ↔
        ∀ met ∈ catalog.depths 0 (wordsRead settings.formula), met.1.arity ≤ met.2)) := by
  obtain ⟨out, hcompile⟩ := exists_compile_of_answersAll hvalid hanswers
  obtain ⟨hstatus, hraised, hnodes⟩ := compile_nodes (congrArg Prod.fst hcompile)
  obtain ⟨hsteps, hreports, hheights⟩ :=
    Evaluation.readWords_of_unclosed (e := .start) hstem hwords fun entry hentry => by
      cases hentry
  have hdepths : (operatorsMet catalog settings).map (fun met => (met.1, met.2.length)) =
    catalog.depths 0 (wordsRead settings.formula) := hheights
  have happlications : out.nodes.map (fun node => (node.operation, node.args)) =
      (operatorsMet catalog settings).map
        (fun met => (met.1.operation, met.1.argsFrom met.2)) := by
    have hfinal := congrArg (List.map Step.application) hnodes
    rw [List.map_map, Plan.map_finalSteps (fun _ _ => rfl), Plan.ofFormula, Plan.steps_ofWords]
      at hfinal
    exact hfinal.trans hsteps
  have hdiagnostics : out.diagnostics =
      (operatorsMet catalog settings).flatMap (fun met => met.1.underflows met.2) ++
        (if out.status = .cancelled then [Plan.nothingToName] else []) := by
    rw [hraised, hstatus, Plan.ofFormula, Plan.diagnostics_ofWords]
    exact congrArg (· ++ _) hreports
  refine ⟨out, hcompile, hdepths, happlications, ?_, hdiagnostics, fun hfinished => ?_⟩
  · have hlengths := congrArg (List.map fun application => application.2.length) happlications
    rw [List.map_map, List.map_map] at hlengths
    rw [← hdepths]
    simpa [Function.comp_def, OperatorSpec.length_argsFrom] using hlengths
  · rw [hdiagnostics, if_neg hfinished, List.append_nil, List.flatMap_eq_nil_iff, ← hdepths,
      List.forall_mem_map]
    exact forall₂_congr fun met _ => OperatorSpec.underflows_eq_nil_iff

/-- The sum lacks its first operand, and so does the product with a sum, which takes the result of
the first sum. -/
theorem compile_underflows_twice :
    ∃ out, (Recording.sink.compile .builtin ⟨"4 + 5 *+ -> total", "mf_temp", true⟩ .empty).1 =
        .ok out ∧
      Catalog.builtin.depths 0 (wordsRead "4 + 5 *+ -> total") =
        [(⟨["+", "add"], .scalar .add, 2⟩, 1), (⟨["*+", "mult_add"], .scalar .multiplyAdd, 3⟩, 2)] ∧
      out.nodes.map (fun node => (node.operation, node.args)) =
        [(.scalar .add, [.missing, plainOperand "4"]),
          (.scalar .multiplyAdd, [.missing, .reference "mf_temp", plainOperand "5"])] ∧
      out.diagnostics.map (·.kind) = [.argumentUnderflow, .argumentUnderflow] := by
  obtain ⟨hwords, hanswers, hdepths, hplanned, happlications, hkinds⟩ :
      (∀ word ∈ wordsRead "4 + 5 *+ -> total",
        Catalog.builtin.lookup word .either = none → withoutClosing? word = none) ∧
      Recording.sink.answersAll (Recording.sink.callsOf .builtin
        ⟨"4 + 5 *+ -> total", "mf_temp", true⟩ .empty) .empty = true ∧
      Catalog.builtin.depths 0 (wordsRead "4 + 5 *+ -> total") =
        [(⟨["+", "add"], .scalar .add, 2⟩, 1), (⟨["*+", "mult_add"], .scalar .multiplyAdd, 3⟩, 2)] ∧
      (Plan.ofFormula .builtin "mf_temp" "4 + 5 *+ -> total").status ≠ .cancelled ∧
      (operatorsMet .builtin ⟨"4 + 5 *+ -> total", "mf_temp", true⟩).map
          (fun met => (met.1.operation, met.1.argsFrom met.2)) =
        [(.scalar .add, [.missing, plainOperand "4"]),
          (.scalar .multiplyAdd, [.missing, .reference "mf_temp", plainOperand "5"])] ∧
      ((operatorsMet .builtin ⟨"4 + 5 *+ -> total", "mf_temp", true⟩).flatMap
        (fun met => met.1.underflows met.2)).map (·.kind) =
          [.argumentUnderflow, .argumentUnderflow] := by
    decide +kernel
  obtain ⟨out, hcompile, -, hnodes, -, hraised, -⟩ :=
    compile_underflows (by decide) (by decide)
      hwords hanswers
  have hok := congrArg Prod.fst hcompile
  have hfinished : out.status ≠ .cancelled := (compile_nodes hok).1 ▸ hplanned
  refine ⟨out, hok, hdepths, hnodes.trans happlications, ?_⟩
  rw [hraised, if_neg hfinished, List.append_nil, hkinds]

end GraphSink

end FormulaChain
