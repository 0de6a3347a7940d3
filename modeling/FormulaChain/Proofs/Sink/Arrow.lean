import FormulaChain.Proofs.Catalog.Builtin
import FormulaChain.Proofs.Catalog.Tables
import FormulaChain.Proofs.Formula.Operators
import FormulaChain.Proofs.Sink.Layout

/-!
# The result arrow

After an operator the result arrow does nothing but give the last node one more name
(`compile_arrow`): the words after it are not read, and the last of them, or else the arrow, is the
name. The label of the frame is the whole formula.
-/

namespace FormulaChain

namespace Plan

variable {catalog : Catalog} {stem : String} {words₁ words₂ : List String}

/-- Nothing after an arrow is read. -/
theorem evaluationBefore_arrow (h₁ : resultArrow ∉ words₁) :
    evaluationBefore catalog stem (words₁ ++ resultArrow :: words₂) =
      evaluationBefore catalog stem words₁ := by
  rw [evaluationBefore_append_of_notMem h₁, List.takeWhile_cons_of_neg (by simp),
    Evaluation.readWords_nil]

/-- After an operator, an arrow gives a final name and changes nothing else of a plan. -/
theorem ofWords_arrow (h₁ : resultArrow ∉ words₁)
    (hne : (evaluationBefore catalog stem words₁).steps ≠ []) :
    ofWords catalog stem (words₁ ++ resultArrow :: words₂) =
      { ofWords catalog stem words₁ with
        finalName := some (words₂.getLast?.getD resultArrow) } := by
  have hfinished : (ofWords catalog stem (words₁ ++ resultArrow :: words₂)).status = .finished :=
    finished_of_steps fun _ => by rwa [evaluationBefore_arrow h₁]
  have hfinished₁ : (ofWords catalog stem words₁).status = .finished :=
    finished_of_steps fun _ => hne
  have hlast : (words₁ ++ resultArrow :: words₂).getLast? =
      some (words₂.getLast?.getD resultArrow) := by
    rw [List.getLast?_append_of_ne_nil _ (List.cons_ne_nil _ _), List.getLast?_cons]
  rw [(ofWords_of_finished hfinished).2, (ofWords_of_finished hfinished₁).2,
    evaluationBefore_arrow h₁, hlast, if_pos (by simp)]

end Plan

namespace Recording

section Named

variable {plan : Plan} {front : List Step} {last : Step}

theorem output_nodes_of_unnamed (hs : plan.steps = front ++ [last]) (hn : plan.finalName = none)
    (r : Recording) (addFrame : Bool) :
    (r.output plan addFrame).nodes =
      r.placedIn front ++ [(placed front.length last).rename (· + r.nodes.length)] := by
  rw [output, Plan.finalSteps, hn, hs, placedIn_concat]

/-- A final name is that of the last node of the output. -/
theorem output_named (hs : plan.steps = front ++ [last]) (name : String) (r : Recording)
    (addFrame : Bool) :
    r.output { plan with finalName := some name } addFrame =
      { r.output plan addFrame with nodes := r.placedIn front ++
        [{ (placed front.length last).rename (· + r.nodes.length) with resultName := name }] } := by
  have hfinal : ({ plan with finalName := some name } : Plan).finalSteps =
      front ++ [{ last with resultName := name }] := by
    simp [Plan.finalSteps, hs]
  rw [output, hfinal, placedIn_concat]
  rfl

/-- A final name is recorded as one more value of the last node. -/
theorem recorded_named (hs : plan.steps = front ++ [last]) (hn : plan.finalName = none)
    (name : String) (frame : Option Nat) (before : List RecordedNode) :
    before ++ ({ plan with finalName := some name } : Plan).recorded frame =
      (before ++ plan.recorded frame).modify (front.length + before.length)
        fun n => { n with values := n.values ++ [(.result, .text name)] } := by
  have hlength : front.length + before.length = (before ++ front.mapIdx fun i step =>
      (placed i step).record [step.resultName] frame).length := by
    simp [Nat.add_comm]
  have hnamed : ({ plan with finalName := some name } : Plan).steps = front ++ [last] := hs
  rw [Plan.recorded_concat hnamed, Plan.recorded_concat hs, ← List.append_assoc,
    ← List.append_assoc, hlength, modify_concat, hn]
  simp [EmittedNode.record]

theorem frames_built (hne : plan.steps ≠ []) (label : String) (r : Recording) (addFrame : Bool) :
    (r.built plan label addFrame).frames = r.frames ++ if addFrame then [label] else [] := by
  cases addFrame <;> simp [built, frameOf, hne]

/-- A final name changes only the last node of what is recorded; the label is that of the frame. -/
theorem built_named (hs : plan.steps = front ++ [last]) (hn : plan.finalName = none)
    (name label label' : String) (r : Recording) (addFrame : Bool) :
    r.built { plan with finalName := some name } label' addFrame =
      { r.built plan label addFrame with
        nodes := (r.built plan label addFrame).nodes.modify (front.length + r.nodes.length)
          fun n => { n with values := n.values ++ [(.result, .text name)] }
        frames := r.frames ++ if addFrame then [label'] else [] } := by
  have hne : plan.steps ≠ [] := by simp [hs]
  exact congrArg₂ (fun nodes frames =>
      (⟨nodes, r.links ++ r.linksIn plan.steps.length, frames, r.refreshes + 1⟩ : Recording))
    (recorded_named hs hn name (r.frameOf plan addFrame) r.nodes)
    (frames_built hne label' r addFrame)

end Named

variable {catalog : Catalog} {stem f₁ f : String} {words₂ : List String}

/-- **The result arrow only renames.** If there is an operator before it, then with the arrow and
whatever follows it the compilation gives what it gives without, except that the last node has the
last word of all as its name, and leaves what it leaves without, except that this name was written
into the last node, too, and that the frame has the whole formula as its label. -/
theorem compile_arrow {scalar vector : List OperatorSpec}
    (hcatalog : Catalog.ofTables scalar vector = .ok catalog)
    (hvalid : Settings.validStem stem = true) (hno : resultArrow ∉ tokenize f₁)
    (hop : ∃ word ∈ tokenize f₁, word ∈ catalog.spellings)
    (hwords : tokenize f = tokenize f₁ ++ resultArrow :: words₂) (addFrame : Bool)
    (r : Recording) :
    ∃ out₁ r₁ front last,
      sink.compile catalog ⟨f₁, stem, addFrame⟩ r = (.ok out₁, r₁) ∧
      out₁.nodes = front ++ [last] ∧
      r₁.frames = r.frames ++ (if addFrame then [f₁] else []) ∧
      sink.compile catalog ⟨f, stem, addFrame⟩ r =
        (.ok { out₁ with nodes :=
            front ++ [{ last with resultName := words₂.getLast?.getD resultArrow }] },
          { r₁ with
            nodes := r₁.nodes.modify last.handle fun n => { n with values :=
              n.values ++ [(.result, .text (words₂.getLast?.getD resultArrow))] }
            frames := r.frames ++ if addFrame then [f] else [] }) := by
  have hisValid (formula : String) : Settings.isValid ⟨formula, stem, addFrame⟩ = true := hvalid
  have hne : (Plan.evaluationBefore catalog stem (tokenize f₁)).steps ≠ [] := by
    obtain ⟨word, hword, hspelling⟩ := hop
    rw [Plan.evaluationBefore_of_notMem hno]
    intro hnone
    have hlookup := Evaluation.readWords_steps_eq_nil_iff.mp hnone word hword
    rw [(Catalog.wellFormed_ofTables hcatalog).lookup_eq_none_iff] at hlookup
    exact hlookup hspelling
  obtain ⟨front, last, hsteps⟩ := (List.eq_nil_or_concat _).resolve_left hne
  rw [List.concat_eq_append] at hsteps
  have hs : (Plan.ofFormula catalog stem f₁).steps = front ++ [last] := by
    rw [Plan.ofFormula, Plan.steps_ofWords, hsteps]
  have hfinished : (Plan.ofWords catalog stem (tokenize f₁)).status = .finished :=
    Plan.finished_of_steps fun h => absurd h hno
  obtain ⟨-, hplan₁⟩ := Plan.ofWords_of_finished hfinished
  have hn : (Plan.ofFormula catalog stem f₁).finalName = none := by
    rw [Plan.ofFormula, hplan₁, if_neg hno]
  have hplan : Plan.ofFormula catalog stem f = { Plan.ofFormula catalog stem f₁ with
      finalName := some (words₂.getLast?.getD resultArrow) } := by
    rw [Plan.ofFormula, hwords]
    exact Plan.ofWords_arrow hno hne
  have hc : (Plan.ofFormula catalog stem f₁).status ≠ .cancelled := by
    rw [Plan.ofFormula, hfinished]
    exact fun h => by cases h
  have hc' : (Plan.ofFormula catalog stem f).status ≠ .cancelled := by
    rw [hplan]
    exact hc
  have hcompile₁ : sink.compile catalog ⟨f₁, stem, addFrame⟩ r = _ := compile_eq (hisValid f₁) r
  have hcompile : sink.compile catalog ⟨f, stem, addFrame⟩ r = _ := compile_eq (hisValid f) r
  rw [if_neg hc] at hcompile₁
  rw [if_neg hc', hplan, output_named hs, built_named hs hn _ f₁] at hcompile
  have hsome : (Plan.ofFormula catalog stem f₁).steps ≠ [] := by simp [hs]
  exact ⟨_, _, _, _, hcompile₁, output_nodes_of_unnamed hs hn r addFrame,
    frames_built hsome f₁ r addFrame, hcompile⟩

/-- A sum is named after the last word, though an operator stands between it and the arrow. -/
theorem compile_arrow_total :
    ∃ (out : CompileOutput Nat Nat) (r r' : Recording) (last : EmittedNode Nat),
      sink.compile .builtin ⟨"1 2 +", "mf_temp", true⟩ empty =
        (.ok { out with nodes := [last] }, r) ∧
      sink.compile .builtin ⟨"1 2 + -> 3 sin total", "mf_temp", true⟩ empty =
        (.ok { out with nodes := [{ last with resultName := "total" }] }, r') ∧
      r'.nodes = r.nodes.modify last.handle (fun n => { n with
        values := n.values ++ [(.result, .text "total")] }) ∧
      r.frames = ["1 2 +"] ∧ r'.frames = ["1 2 + -> 3 sin total"] := by
  have hvalid : Settings.validStem "mf_temp" = true := by decide
  have hwords : tokenize "1 2 + -> 3 sin total" =
      tokenize "1 2 +" ++ resultArrow :: ["3", "sin", "total"] := by decide +kernel
  have hno : resultArrow ∉ tokenize "1 2 +" := by decide +kernel
  have hop : ∃ word ∈ tokenize "1 2 +", word ∈ Catalog.builtin.spellings := by decide +kernel
  obtain ⟨out, r, front, last, hcompile₁, hnodes, hframes, hcompile⟩ :=
    compile_arrow Catalog.ofTables_builtin hvalid hno hop hwords true empty
  have hone : (sink.compile .builtin ⟨"1 2 +", "mf_temp", true⟩ empty).1.map
      (·.nodes.length) = .ok 1 := by decide +kernel
  rw [hcompile₁] at hone
  obtain rfl : front = [] := by simpa [Except.map, hnodes] using hone
  rw [List.nil_append] at hnodes
  exact ⟨out, r, _, last, hnodes ▸ hcompile₁, hcompile, rfl, hframes, rfl⟩

end Recording

end FormulaChain
