import FormulaChain.Proofs.Catalog.Builtin
import FormulaChain.Proofs.Catalog.Tables
import FormulaChain.Proofs.Formula.Operators
import FormulaChain.Proofs.Node.Binding
import FormulaChain.Proofs.Sink.Layout

/-!
# What a compilation appends to a recording

A compilation into a recording sink leaves all that was recorded before as it was and appends what
its output says (`compile_records`): a node for each operator that mirrors the emitted one
(`RecordedAs`), the links of a chain, a frame if one is wanted, and one refresh. The output is that
of a compilation into an empty sink with the numbers that come next.
-/

namespace FormulaChain

/-! ### Names -/

/-- The last of the names that a node gets is the one its operator has in the end. -/
theorem Plan.getElem?_finalSteps {plan : Plan} {i : Nat} {step : Step}
    (h : plan.steps[i]? = some step) :
    ∃ final, plan.finalSteps[i]? = some final ∧ final.operation = step.operation ∧
      final.args = step.args ∧ (plan.names i step).getLast? = some final.resultName := by
  unfold finalSteps names
  cases hn : plan.finalName with
  | none => exact ⟨step, h, rfl, rfl, by simp⟩
  | some name =>
    have hne : plan.steps ≠ [] := fun hs => by simp [hs] at h
    obtain ⟨front, last, hs⟩ := (List.eq_nil_or_concat plan.steps).resolve_left hne
    rw [List.concat_eq_append] at hs
    rw [hs] at h
    simp only [hs, Step.renameLast_concat, List.length_append, List.length_singleton]
    by_cases hi : i < front.length
    · rw [List.getElem?_append_left hi] at h ⊢
      have hbefore : i ≠ front.length := by omega
      exact ⟨step, h, rfl, rfl, by simp [hbefore]⟩
    · obtain ⟨rfl, rfl⟩ : i = front.length ∧ last = step := by
        rw [List.getElem?_append_right (Nat.le_of_not_lt hi)] at h
        obtain ⟨hlt, heq⟩ := List.getElem?_eq_some_iff.mp h
        rw [List.length_singleton] at hlt
        exact ⟨by omega, by simpa using heq⟩
      exact ⟨{ last with resultName := name }, by simp, rfl, rfl, by simp⟩

theorem Plan.shape_finalSteps (plan : Plan) :
    plan.finalSteps.map Step.shape = plan.steps.map Step.shape :=
  plan.map_finalSteps fun _ _ => rfl

/-! ### Nodes -/

/-- A recorded node mirrors an emitted one whose result was given some names in turn. -/
structure RecordedAs (node : EmittedNode Nat) (names : List String) (frame : Option Nat)
    (recorded : RecordedNode) : Prop where
  /-- It is of the kind that performs the operations of the domain. -/
  kind : recorded.kind = .ofDomain node.domain
  /-- It stands where it was placed. -/
  position : recorded.position = node.position
  /-- It has the width of a fresh node. -/
  width : recorded.width = defaultNodeWidth
  /-- It performs the operation. -/
  operation : recorded.operation = some node.operation
  /-- The slots that are bound have the kinds of their bindings, and the others none. -/
  inputKinds : ∀ slot, recorded.inputKinds.get slot =
    (node.bindings.find? (·.slot = slot)).map (·.kind)
  /-- The values of the bindings were written in order, and the names after them. -/
  values : recorded.values = node.bindings.map (fun b => (b.socket, b.value)) ++
    names.map fun name => (.result, .text name)
  /-- The latest name is that of the result. -/
  result : recorded.value .result = some (.text node.resultName)
  /-- It lies in the frame. -/
  frame : recorded.frame = frame

/-- What is recorded of a node mirrors it. -/
theorem EmittedNode.recordedAs (node : EmittedNode Nat) {names : List String}
    (hslots : (node.bindings.map (·.slot)).Nodup) (h : names.getLast? = some node.resultName)
    (frame : Option Nat) : RecordedAs node names frame (node.record names frame) where
  kind := rfl
  position := rfl
  width := rfl
  operation := rfl
  inputKinds slot := InputKinds.get_choose_unset hslots slot
  values := rfl
  result := RecordedNode.value_result_record node h frame
  frame := rfl

namespace Recording

/-- What a finished compilation appends to a recording. -/
structure Appends (catalog : Catalog) (settings : Settings) (r : Recording)
    (out : CompileOutput Nat Nat) (r' : Recording) : Prop where
  /-- There is one node for each operator before the first arrow, with as many operands as the
  operator takes. -/
  operators : out.nodes.map (fun node => (node.operation, node.args.length)) =
    (catalog.operators ((tokenize settings.formula).takeWhile (· ≠ resultArrow))).map
      fun spec => (spec.operation, spec.arity)
  /-- Each operand is bound, in the order of the slots. -/
  bindings : ∀ node ∈ out.nodes, node.bindings = node.operation.bind node.args ∧
    node.bindings.length = node.args.length ∧
    node.bindings.map (·.slot) = Slot.all.take node.args.length
  /-- The nodes have the numbers that come next, in the order of the formula. -/
  numbers : ∀ i node, out.nodes[i]? = some node →
    node.handle = r.nodes.length + i ∧ node.sequenceIndex = i
  /-- The nodes from before stay as they were, and for each node of the output there is one that
  mirrors it. It was named when its operator was read; if there is an arrow, the last was named once
  more, after the last word. -/
  nodes : ∃ news, r'.nodes = r.nodes ++ news ∧ news.length = out.nodes.length ∧
    ∀ i node recorded, out.nodes[i]? = some node → news[i]? = some recorded →
      ∃ step number, (Plan.evaluationBefore catalog settings.tempName
          (tokenize settings.formula)).steps[i]? = some step ∧
        step.resultName = syntheticName settings.tempName number ∧
        RecordedAs node
          (step.resultName ::
            if i + 1 = out.nodes.length ∧ resultArrow ∈ tokenize settings.formula then
              (tokenize settings.formula).getLast?.toList
            else [])
          out.frame recorded
  /-- The links from before stay, and each new node is linked to the next. -/
  links : r'.links = r.links ++ (List.range (out.nodes.length - 1)).map fun i =>
    ⟨r.nodes.length + i, .geometry, r.nodes.length + i + 1, .geometry⟩
  /-- The frames from before stay, and there is a new one if it is wanted and there are nodes. -/
  frames : r'.frames =
    r.frames ++ if settings.addFrame ∧ out.nodes ≠ [] then [settings.formula] else []
  /-- The new frame is that of the output. -/
  frame : out.frame = if settings.addFrame ∧ out.nodes ≠ [] then some r.frames.length else none
  /-- One refresh is counted. -/
  refreshes : r'.refreshes = r.refreshes + 1

/-- What a build gives depends on what was recorded before only in the numbers. -/
theorem output_eq_rename (r : Recording) (plan : Plan) (addFrame : Bool) :
    r.output plan addFrame =
      (empty.output plan addFrame).rename (· + r.nodes.length) (· + r.frames.length) := by
  have hempty : empty.placedIn plan.finalSteps = placedAll plan.finalSteps := List.map_id _
  rw [output, output, CompileOutput.rename, hempty]
  by_cases hframe : addFrame = true ∧ plan.steps ≠ []
  · simp [placedIn, frameOf, hframe, empty]
  · simp [placedIn, frameOf, if_neg hframe]

/-- The nodes of a build, one by one. -/
theorem getElem?_placedIn {r : Recording} {steps : List Step} {i : Nat} {node : EmittedNode Nat}
    (h : (r.placedIn steps)[i]? = some node) :
    ∃ step, steps[i]? = some step ∧ node = (placed i step).rename (· + r.nodes.length) := by
  simpa [placedIn, placedAll, eq_comm] using h

theorem shape_placedIn (r : Recording) (steps : List Step) :
    (r.placedIn steps).map (fun node => (node.operation, node.args.length)) =
      steps.map Step.shape := by
  apply List.ext_getElem
  · simp
  · intro i _ _
    simp [placedIn, placedAll, placed, EmittedNode.rename, Step.shape]

/-- A recorded node of a plan mirrors the emitted one. -/
theorem recordedAs_of_getElem? {r : Recording} {plan : Plan} {frame : Option Nat} {i : Nat}
    {node : EmittedNode Nat} {recorded : RecordedNode}
    (hnode : (r.placedIn plan.finalSteps)[i]? = some node)
    (hrecorded : (plan.recorded frame)[i]? = some recorded) :
    ∃ step, plan.steps[i]? = some step ∧ RecordedAs node (plan.names i step) frame recorded := by
  obtain ⟨step, hstep, rfl⟩ : ∃ step, plan.steps[i]? = some step ∧
      (placed i step).record (plan.names i step) frame = recorded := by
    simpa [Plan.recorded] using hrecorded
  obtain ⟨final, hfinal, hoperation, hargs, hname⟩ := Plan.getElem?_finalSteps hstep
  obtain ⟨final', hfinal', rfl⟩ := getElem?_placedIn hnode
  obtain rfl : final = final' := Option.some.inj (hfinal.symm.trans hfinal')
  have hsame : (placed i step).record (plan.names i step) frame =
      ((placed i final).rename (· + r.nodes.length)).record (plan.names i step) frame := by
    simp [EmittedNode.record, EmittedNode.kind, placed, EmittedNode.rename, hoperation,
      hargs]
  rw [hsame]
  exact ⟨step, hstep, EmittedNode.recordedAs _ (Operation.nodup_slots_bind _ _) hname frame⟩

section Finished

variable {catalog : Catalog} {settings : Settings}

/-- The operators of a finished plan are those before the first arrow. -/
theorem operators_of_finished
    (hs : (Plan.ofFormula catalog settings.tempName settings.formula).status = .finished) :
    (Plan.ofFormula catalog settings.tempName settings.formula).finalSteps.map Step.shape =
      (catalog.operators ((tokenize settings.formula).takeWhile (· ≠ resultArrow))).map
        OperatorSpec.shape := by
  obtain ⟨-, hplan⟩ := Plan.ofWords_of_finished hs
  rw [Plan.shape_finalSteps, Plan.ofFormula, hplan]
  exact Evaluation.readWords_operators _

/-- The last node of a formula with an arrow is named after the last word. -/
theorem names_of_finished
    (hs : (Plan.ofFormula catalog settings.tempName settings.formula).status = .finished)
    (i : Nat) (step : Step) :
    (Plan.ofFormula catalog settings.tempName settings.formula).names i step =
      step.resultName ::
        if i + 1 = (Plan.ofFormula catalog settings.tempName settings.formula).steps.length ∧
            resultArrow ∈ tokenize settings.formula then
          (tokenize settings.formula).getLast?.toList
        else [] := by
  obtain ⟨-, hplan⟩ := Plan.ofWords_of_finished hs
  rw [Plan.names, Plan.ofFormula, hplan]
  by_cases harrow : resultArrow ∈ tokenize settings.formula
  · simp [harrow]
  · simp [harrow]

theorem linksIn_eq (r : Recording) (n : Nat) :
    r.linksIn n = (List.range (n - 1)).map fun i =>
      ⟨r.nodes.length + i, .geometry, r.nodes.length + i + 1, .geometry⟩ := by
  rw [linksIn, chainLinks, List.map_map]
  refine List.map_congr_left fun i _ => ?_
  simp only [Function.comp_apply, RecordedLink.shift, RecordedLink.mk.injEq, true_and, and_true]
  omega

theorem appends_built (hcatalog : catalog.WellFormed)
    (hs : (Plan.ofFormula catalog settings.tempName settings.formula).status = .finished)
    (r : Recording) :
    Appends catalog settings r
      (r.output (Plan.ofFormula catalog settings.tempName settings.formula) settings.addFrame)
      (r.built (Plan.ofFormula catalog settings.tempName settings.formula) settings.formula
        settings.addFrame) := by
  have hlength (plan : Plan) : (r.placedIn plan.finalSteps).length = plan.steps.length := by
    rw [length_placedIn, Plan.length_finalSteps]
  have hnodes (plan : Plan) : r.placedIn plan.finalSteps ≠ [] ↔ plan.steps ≠ [] := by
    rw [← List.length_pos_iff, hlength, List.length_pos_iff]
  constructor
  · exact (shape_placedIn r _).trans (operators_of_finished hs)
  · intro node hnode
    obtain ⟨i, hi⟩ := List.mem_iff_getElem?.mp hnode
    obtain ⟨step, hstep, rfl⟩ := getElem?_placedIn hi
    obtain ⟨before, hbefore, hargs⟩ := Plan.exists_args_eq (List.mem_of_getElem? hstep)
    rw [Plan.ofFormula, Plan.steps_ofWords] at hbefore
    have hle : step.args.length ≤ 3 :=
      hargs ▸ (Evaluation.length_args_bounds hcatalog hbefore).2
    exact ⟨rfl, step.operation.length_bind hle, step.operation.slots_bind step.args⟩
  · intro i node hnode
    obtain ⟨step, -, rfl⟩ := getElem?_placedIn hnode
    exact ⟨Nat.add_comm _ _, rfl⟩
  · refine ⟨_, rfl, (length_recorded _ _).trans (hlength _).symm, ?_⟩
    intro i node recorded hnode hrecorded
    obtain ⟨step, hstep, hmirrors⟩ := recordedAs_of_getElem? hnode hrecorded
    rw [Plan.ofFormula, Plan.steps_ofWords] at hstep
    obtain ⟨number, hnumber⟩ := Evaluation.readWords_named _ step (List.mem_of_getElem? hstep)
    refine ⟨step, number, hstep, hnumber, ?_⟩
    rw [names_of_finished hs, ← hlength] at hmirrors
    exact hmirrors
  · rw [output, hlength]
    exact congrArg (r.links ++ ·) (linksIn_eq r _)
  · simp only [built, output, frameOf, hnodes]
    split <;> rfl
  · simp only [output, frameOf, hnodes]
  · rfl

/-- **A compilation appends what its output says.** Whatever was recorded before, the output is that
of a compilation into an empty sink with greater numbers, and if it is finished, exactly what it
tells of is appended. -/
theorem compile_records {scalar vector : List OperatorSpec}
    (hcatalog : Catalog.ofTables scalar vector = .ok catalog) (hvalid : settings.isValid = true)
    (r : Recording) :
    ∃ out₀ r₀ out r',
      sink.compile catalog settings empty = (.ok out₀, r₀) ∧
      sink.compile catalog settings r = (.ok out, r') ∧
      out = out₀.rename (· + r.nodes.length) (· + r.frames.length) ∧
      (out.status = .finished → Appends catalog settings r out r') := by
  refine ⟨_, _, _, _, compile_eq hvalid empty, compile_eq hvalid r, output_eq_rename r _ _, ?_⟩
  intro hfinished
  have hs : (Plan.ofFormula catalog settings.tempName settings.formula).status = .finished :=
    hfinished
  have hc : (Plan.ofFormula catalog settings.tempName settings.formula).status ≠ .cancelled := by
    rw [hs]
    exact fun h => by cases h
  rw [if_neg hc]
  exact appends_built (Catalog.wellFormed_ofTables hcatalog) hs r

end Finished

/-- A node that lies in a frame and is linked to itself. -/
def looped : Recording :=
  ⟨[⟨.attributeMath, originPosition, defaultNodeWidth, none, .unset, [], some 0⟩],
    [⟨0, .geometry, 0, .geometry⟩], ["Loop"], 1⟩

/-- A product and its sine are appended to what is there, and the sine is named twice. -/
theorem compile_records_looped :
    ∃ (out : CompileOutput Nat Nat) (r' : Recording),
      sink.compile .builtin ⟨"4 5 * sin -> area", "mf_temp", true⟩ looped = (.ok out, r') ∧
      Appends .builtin ⟨"4 5 * sin -> area", "mf_temp", true⟩ looped out r' ∧
      r'.counts = [3, 2, 2, 2] ∧
      (r'.nodes.map (·.values)).getLast? = some [(.named .a, .text "mf_temp"),
        (.result, .text "mf_temp"), (.result, .text "area")] := by
  have hvalid : Settings.isValid ⟨"4 5 * sin -> area", "mf_temp", true⟩ = true := by decide
  obtain ⟨out₀, r₀, out, r', -, hcompile, -, happends⟩ :=
    compile_records Catalog.ofTables_builtin hvalid looped
  have hrun : (sink.compile .builtin ⟨"4 5 * sin -> area", "mf_temp", true⟩ looped).1.map
        (·.status) = .ok .finished ∧
      (sink.compile .builtin ⟨"4 5 * sin -> area", "mf_temp", true⟩ looped).2.counts =
        [3, 2, 2, 2] ∧
      ((sink.compile .builtin ⟨"4 5 * sin -> area", "mf_temp", true⟩ looped).2.nodes.map
        (·.values)).getLast? = some [(.named .a, .text "mf_temp"), (.result, .text "mf_temp"),
          (.result, .text "area")] := by
    decide +kernel
  rw [hcompile] at hrun
  exact ⟨out, r', hcompile, happends (Except.ok.inj hrun.1), hrun.2⟩

end Recording

end FormulaChain
