import FormulaChain.Catalog.Builtin
import FormulaChain.Proofs.Formula.Composition
import FormulaChain.Proofs.Formula.Word
import FormulaChain.Proofs.Sink.Layout

/-!
# Formulas side by side

Two formulas can be written side by side if the first has no result arrow and the second compiles
without a report and has no word that begins with the stem. The compilation gives the nodes of the
first and then those of the second (`compile_append`). The latter go on with the numbers of the
nodes, with the chain, and with the names of results where the first leaves off
(`EmittedNode.after`); a name that the result arrow gives stays, and all reports are those of the
first.
-/

namespace FormulaChain

/-! ### Plans -/

namespace Plan

variable {catalog : Catalog} {stem : String} {words₁ words₂ : List String}

section Append

variable (hplain : PlainStem stem) (h₁ : resultArrow ∉ words₁)
  (hstem : ∀ word ∈ words₂, hasStem stem word = false)
  (hclean : (ofWords catalog stem words₂).diagnostics = [])

include hclean in
theorem diagnostics_evaluationBefore :
    (evaluationBefore catalog stem words₂).diagnostics = [] := by
  rw [(ofWords_of_finished (finished_of_clean hclean)).2] at hclean
  exact hclean

include hplain h₁ hstem hclean

/-- Words that are read without a report are read on top of what was left before them. -/
theorem evaluationBefore_append :
    evaluationBefore catalog stem (words₁ ++ words₂) =
      (evaluationBefore catalog stem words₂).atop stem
        (evaluationBefore catalog stem words₁) := by
  have hread :
      (Evaluation.start.atop stem (evaluationBefore catalog stem words₁)).readWords catalog stem
          (words₂.takeWhile (· ≠ resultArrow)) =
        (evaluationBefore catalog stem words₂).atop stem
          (evaluationBefore catalog stem words₁) := by
    refine Evaluation.readWords_atop hplain Evaluation.orderly_start (fun word hword _ => ?_)
      (diagnostics_evaluationBefore hclean)
    exact not_givesBack_of_not_hasStem (hstem word ((List.takeWhile_sublist _).subset hword))
  rw [Evaluation.atop_start] at hread
  exact (evaluationBefore_append_of_notMem h₁).trans hread

/-- The plan of words side by side: the operators of the second part follow those of the first with
shifted names, the reports are those of the first, and the final name is that of the second. -/
theorem ofWords_append :
    ofWords catalog stem (words₁ ++ words₂) =
      ⟨(ofWords catalog stem words₁).steps ++ (ofWords catalog stem words₂).steps.map
          (·.shift stem (evaluationBefore catalog stem words₁).counter),
        (ofWords catalog stem words₁).diagnostics, .finished,
        (ofWords catalog stem words₂).finalName⟩ := by
  have happend := evaluationBefore_append hplain h₁ hstem hclean
  have hquiet := diagnostics_evaluationBefore hclean
  have hfirst : (ofWords catalog stem words₁).status = .finished :=
    finished_of_steps fun h => absurd h h₁
  obtain ⟨-, hplan₁⟩ := ofWords_of_finished hfirst
  obtain ⟨hne, hplan₂⟩ := ofWords_of_finished (finished_of_clean hclean)
  -- an arrow of the second part has an operator before it, which the whole has, too
  have hwhole : (ofWords catalog stem (words₁ ++ words₂)).status = .finished := by
    refine finished_of_steps fun h => ?_
    simp [happend, Evaluation.atop, hne ((List.mem_append.mp h).resolve_left h₁)]
  rw [(ofWords_of_finished hwhole).2, hplan₁, hplan₂, happend]
  by_cases h₂ : resultArrow ∈ words₂
  · have hlast := List.getLast?_append_of_ne_nil words₁ (List.ne_nil_of_mem h₂)
    simp only [List.mem_append, h₂, or_true, if_true, hlast]
    simp [Evaluation.atop, hquiet]
  · simp [h₁, h₂, Evaluation.atop, hquiet]

/-- The same for the operators under their final names. -/
theorem finalSteps_append :
    (ofWords catalog stem (words₁ ++ words₂)).finalSteps =
      (ofWords catalog stem words₁).finalSteps ++
        (ofWords catalog stem words₂).finalSteps.map
          (·.shift stem (evaluationBefore catalog stem words₁).counter) := by
  have hfirst : (ofWords catalog stem words₁).finalSteps = (ofWords catalog stem words₁).steps := by
    simp [finalSteps, ofWords, h₁]
  rw [ofWords_append hplain h₁ hstem hclean, hfirst]
  unfold finalSteps
  cases hn : (ofWords catalog stem words₂).finalName with
  | none => rfl
  | some name =>
    -- a name that an arrow gives is a word of the second part, hence none that is shifted
    have hmem : name ∈ words₂ := List.mem_of_getLast? (arrow_of_finalName hn).2.1
    have hname : shiftName stem (evaluationBefore catalog stem words₁).counter name = name :=
      shiftName_of_ne (ne_syntheticName_of_not_hasStem (hstem name hmem)) _
    have hne : (ofWords catalog stem words₂).steps ≠ [] := by
      rw [steps_ofWords]
      exact steps_ne_nil_of_finalName hn
    obtain ⟨front, last, hsteps⟩ := (List.eq_nil_or_concat _).resolve_left hne
    simp only [hsteps, List.concat_eq_append, List.map_append, List.map_singleton,
      ← List.append_assoc, Step.renameLast_concat]
    simp [Step.shift, hname]

end Append

end Plan

/-! ### Nodes -/

/-- A node as it is when its formula is read after another: its numbers are greater by `n`, the
nodes of the other formula, the names of results by `c`, the counter that it leaves, and it stands
`n` places further along the chain. -/
def EmittedNode.after (stem : String) (c n : Nat) (node : EmittedNode Nat) : EmittedNode Nat where
  handle := node.handle + n
  operation := node.operation
  args := node.args.map (·.shift stem c)
  bindings := node.bindings.map (·.shift stem c)
  resultName := shiftName stem c node.resultName
  sequenceIndex := node.sequenceIndex + n
  position := chainPosition (node.sequenceIndex + n)

theorem placed_shift {stem : String} (hvalid : Settings.validStem stem = true) (c n i : Nat)
    (step : Step) : placed (i + n) (step.shift stem c) = (placed i step).after stem c n := by
  simp only [placed, EmittedNode.after, Step.shift, Operation.bind_shift hvalid]

/-- Shifted operators after others are carried out by the nodes that carry them out alone, moved
along the chain. -/
theorem placedAll_append {stem : String} (hvalid : Settings.validStem stem = true) (c : Nat)
    (steps₁ steps₂ : List Step) :
    placedAll (steps₁ ++ steps₂.map (·.shift stem c)) =
      placedAll steps₁ ++ (placedAll steps₂).map (·.after stem c steps₁.length) := by
  unfold placedAll
  rw [List.mapIdx_append]
  congr 1
  apply List.ext_getElem
  · simp
  · intro i _ _
    simp [placed_shift hvalid]

namespace Recording

theorem exists_compile_empty (catalog : Catalog) {stem : String}
    (hvalid : Settings.validStem stem = true) (formula : String) (addFrame : Bool) :
    ∃ out r, sink.compile catalog ⟨formula, stem, addFrame⟩ empty = (.ok out, r) := by
  have hisValid : Settings.isValid ⟨formula, stem, addFrame⟩ = true := hvalid
  obtain ⟨out, hout⟩ := exists_compile hisValid empty
  exact ⟨out, _, Prod.ext hout rfl⟩

/-- **Formulas side by side compile to nodes side by side.** If a formula compiles without a report
and no word of it begins with the stem, then after any formula without a result arrow it gives the
same nodes with greater numbers, further along the chain, and its results have the names that follow
the counter of the first. The name that its result arrow gives stays, and no report is added to
those of the first. -/
theorem compile_append {catalog : Catalog} {stem f₁ f₂ : String} {addFrame : Bool}
    {out₂ : CompileOutput Nat Nat} {r₂ : Recording} (hplain : PlainStem stem)
    (h₁ : resultArrow ∉ tokenize f₁)
    (hstem : ∀ word ∈ tokenize f₂, hasStem stem word = false)
    (h₂ : sink.compile catalog ⟨f₂, stem, addFrame⟩ empty = (.ok out₂, r₂))
    (hclean : out₂.diagnostics = []) :
    ∃ out₁ r₁ out r,
      sink.compile catalog ⟨f₁, stem, addFrame⟩ empty = (.ok out₁, r₁) ∧
      sink.compile catalog ⟨f₁ ++ " " ++ f₂, stem, addFrame⟩ empty = (.ok out, r) ∧
      out.status = .finished ∧
      out.nodes = out₁.nodes ++ out₂.nodes.map (·.after stem
        (Plan.evaluationBefore catalog stem (tokenize f₁)).counter out₁.nodes.length) ∧
      ShowsChain out.nodes.length r ∧
      (resultArrow ∈ tokenize f₂ →
        out.resultName = out₂.resultName ∧ out₂.resultName = (tokenize f₂).getLast?) ∧
      out.diagnostics = out₁.diagnostics := by
  have hvalid : Settings.validStem stem = true := (GraphSink.compile_eq_ok.mp h₂).1
  obtain ⟨out₁, r₁, hout₁⟩ := exists_compile_empty catalog hvalid f₁ addFrame
  obtain ⟨out, r, hout⟩ := exists_compile_empty catalog hvalid (f₁ ++ " " ++ f₂) addFrame
  obtain ⟨-, hreports₁, -⟩ := GraphSink.compile_nodes (congrArg Prod.fst hout₁)
  obtain ⟨hstatus₂, hreports₂, -⟩ := GraphSink.compile_nodes (congrArg Prod.fst h₂)
  obtain ⟨hstatus, hreports, -⟩ := GraphSink.compile_nodes (congrArg Prod.fst hout)
  obtain ⟨hnodes₁, -⟩ := compile_chain hout₁
  obtain ⟨hnodes₂, -⟩ := compile_chain h₂
  obtain ⟨hnodes, hchain⟩ := compile_chain hout
  simp only [Plan.ofFormula, tokenize_append] at hstatus hreports hnodes hstatus₂ hreports₂
  rw [hreports₂] at hclean
  rw [Plan.ofWords_append hplain h₁ hstem hclean] at hstatus hreports
  refine ⟨out₁, r₁, out, r, hout₁, hout, hstatus, ?_, hchain, fun harrow => ?_, ?_⟩
  · rw [hnodes, Plan.finalSteps_append hplain h₁ hstem hclean, placedAll_append hvalid, hnodes₁,
      hnodes₂, length_placedAll]
    rfl
  · have hmem : resultArrow ∈ tokenize (f₁ ++ " " ++ f₂) := by
      rw [tokenize_append]
      exact List.mem_append_right _ harrow
    have hname := GraphSink.resultName_of_arrow (congrArg Prod.fst hout) hmem hstatus
    have hname₂ := GraphSink.resultName_of_arrow (congrArg Prod.fst h₂) harrow
      (hstatus₂.trans (Plan.finished_of_clean hclean))
    rw [tokenize_append, List.getLast?_append_of_ne_nil _ (List.ne_nil_of_mem harrow)] at hname
    exact ⟨hname.trans hname₂.symm, hname₂⟩
  · exact hreports.trans hreports₁.symm

/-- The first formula sums nothing, which is reported, and takes a cosine under the name of that
sum, since its operand begins with the stem. The sine and the cosine that follow have the next
names, and the product has the one that the arrow gives. -/
theorem compile_append_arrow :
    ∃ out r, sink.compile .builtin
        ⟨"+ mf_tempx cos 5" ++ " " ++ "2 sin 3 cos * -> wave", "mf_temp", true⟩ empty =
          (.ok out, r) ∧
      out.nodes.map (·.resultName) = ["mf_temp", "mf_temp", "mf_temp1", "mf_temp2", "wave"] ∧
      out.diagnostics.length = 2 := by
  have hplain : PlainStem "mf_temp" :=
    plainStem_of_mem (c := '_') (by decide) (by decide) (by decide) (by decide)
  obtain ⟨out₂, r₂, hout₂⟩ :=
    exists_compile_empty .builtin (by decide : Settings.validStem "mf_temp" = true)
      "2 sin 3 cos * -> wave" true
  obtain ⟨-, hreports₂, hnodes₂⟩ := GraphSink.compile_nodes (congrArg Prod.fst hout₂)
  have hplan₂ : (Plan.ofFormula .builtin "mf_temp" "2 sin 3 cos * -> wave").diagnostics = [] ∧
      (Plan.ofFormula .builtin "mf_temp" "2 sin 3 cos * -> wave").finalSteps.map
        (shiftName "mf_temp" 1 ·.resultName) = ["mf_temp1", "mf_temp2", "wave"] := by
    decide +kernel
  obtain ⟨out₁, r₁, out, r, hout₁, hout, -, hnodes, -, -, hreports⟩ :=
    compile_append hplain (by decide +kernel : resultArrow ∉ tokenize "+ mf_tempx cos 5")
      (by decide +kernel) hout₂ (hreports₂.trans hplan₂.1)
  obtain ⟨-, hreports₁, hnodes₁⟩ := GraphSink.compile_nodes (congrArg Prod.fst hout₁)
  have hplan₁ : (Plan.ofFormula .builtin "mf_temp" "+ mf_tempx cos 5").diagnostics.length = 2 ∧
      (Plan.ofFormula .builtin "mf_temp" "+ mf_tempx cos 5").finalSteps.map (·.resultName) =
        ["mf_temp", "mf_temp"] ∧
      (Plan.evaluationBefore .builtin "mf_temp" (tokenize "+ mf_tempx cos 5")).counter = 1 := by
    decide +kernel
  refine ⟨out, r, hout, ?_, ?_⟩
  · rw [← hnodes₁, List.map_map] at hplan₁
    rw [← hnodes₂, List.map_map] at hplan₂
    rw [hnodes, hplan₁.2.2, List.map_append, List.map_map]
    exact congrArg₂ (· ++ ·) hplan₁.2.1 hplan₂.2
  · rw [hreports, hreports₁]
    exact hplan₁.1

end Recording

end FormulaChain
