import FormulaChain.Proofs.Sink.Run

/-!
# What a build gives out

The nodes of a build carry out the operators of its plan, whatever the sink (`build_yields`,
`compile_nodes`): one node for each operator, in the order of the formula, with its operands and its
name, except that the result arrow renames the last (`Plan.finalSteps`). A sink has a say in handles
and positions only.
-/

namespace FormulaChain

variable {σ N F E : Type}

/-- What a node carries out. -/
def EmittedNode.step (node : EmittedNode N) : Step := ⟨node.operation, node.args, node.resultName⟩

/-- Gives the last of some operators a new name. -/
def Step.renameLast (steps : List Step) (name : String) : List Step :=
  match steps.getLast? with
  | none => steps
  | some last => steps.dropLast ++ [{ last with resultName := name }]

/-- The operators of a plan under the names their results have in the end. -/
def Plan.finalSteps (plan : Plan) : List Step :=
  match plan.finalName with
  | none => plan.steps
  | some name => Step.renameLast plan.steps name

@[simp]
theorem Step.renameLast_concat (steps : List Step) (last : Step) (name : String) :
    Step.renameLast (steps ++ [last]) name = steps ++ [{ last with resultName := name }] := by
  simp [Step.renameLast]

/-- The final name changes nothing but a name. -/
theorem Plan.map_finalSteps {α : Type} {f : Step → α}
    (hf : ∀ step name, f { step with resultName := name } = f step) (plan : Plan) :
    plan.finalSteps.map f = plan.steps.map f := by
  unfold finalSteps
  cases plan.finalName with
  | none => rfl
  | some name =>
    rcases List.eq_nil_or_concat plan.steps with hs | ⟨front, last, hs⟩
    · rw [hs]
      rfl
    · simp only [hs, List.concat_eq_append, Step.renameLast_concat, List.map_append,
        List.map_singleton, hf]

/-- The final name changes no operands. -/
theorem Plan.exists_args_eq {plan : Plan} {step : Step} (h : step ∈ plan.finalSteps) :
    ∃ before ∈ plan.steps, before.args = step.args := by
  have hargs := List.mem_map_of_mem (f := Step.args) h
  rw [map_finalSteps fun _ _ => rfl] at hargs
  exact List.mem_map.mp hargs

/-- An operator that is not the last keeps its name. -/
theorem Plan.getElem?_finalSteps_of_lt {plan : Plan} {i : Nat} (h : i + 1 < plan.steps.length) :
    plan.finalSteps[i]? = plan.steps[i]? := by
  unfold finalSteps
  cases plan.finalName with
  | none => rfl
  | some name =>
    rcases List.eq_nil_or_concat plan.steps with hs | ⟨front, last, hs⟩
    · rw [hs]
      rfl
    · rw [List.concat_eq_append] at hs
      rw [hs, List.length_append, List.length_singleton] at h
      simp only [hs, Step.renameLast_concat]
      rw [List.getElem?_append_left (by omega), List.getElem?_append_left (by omega)]

namespace GraphSink

open SinkRun

variable {sink : GraphSink σ N F E}

/-! ### Emission -/

/-- A step of emission appends one node, which carries out the operator given. -/
theorem emitStep_yields {emitted out : List (EmittedNode N)} {step : Step} {s s' : σ}
    (h : Yields (sink.emitStep emitted step) s out s') :
    ∃ node : EmittedNode N, out = emitted ++ [node] ∧ node.step = step ∧
      node.sequenceIndex = emitted.length := by
  unfold emitStep at h
  obtain ⟨node, _, -, h⟩ := yields_bind.mp h
  obtain ⟨position, _, -, h⟩ := yields_bind.mp h
  obtain ⟨_, _, -, h⟩ := yields_bind.mp h
  obtain ⟨_, _, -, h⟩ := yields_bind.mp h
  obtain ⟨_, _, -, h⟩ := yields_bind.mp h
  obtain ⟨rfl, -⟩ := yields_pure.mp h
  exact ⟨_, rfl, rfl, rfl⟩

/-- Emission appends one node for each operator. -/
theorem foldlM_emitStep_yields {steps : List Step} {emitted out : List (EmittedNode N)} {s s' : σ}
    (h : Yields (steps.foldlM sink.emitStep emitted) s out s') :
    out.map EmittedNode.step = emitted.map EmittedNode.step ++ steps := by
  induction steps generalizing emitted s with
  | nil =>
    obtain ⟨rfl, -⟩ := yields_pure.mp h
    simp
  | cons step steps ih =>
    obtain ⟨emitted', s₁, h₁, h₂⟩ := yields_bind.mp h
    obtain ⟨node, rfl, rfl, -⟩ := emitStep_yields h₁
    rw [ih h₂]
    simp

/-- Renaming the last node renames what it carries out. -/
theorem renameLast_yields {emitted out : List (EmittedNode N)} {name : String} {s s' : σ}
    (h : Yields (sink.renameLast emitted name) s out s') :
    out.map EmittedNode.step = Step.renameLast (emitted.map EmittedNode.step) name := by
  unfold renameLast at h
  rcases List.eq_nil_or_concat emitted with rfl | ⟨front, last, rfl⟩
  · obtain ⟨rfl, -⟩ := yields_pure.mp h
    rfl
  · simp only [List.concat_eq_append, List.getLast?_concat, List.dropLast_concat] at h
    obtain ⟨_, _, -, h⟩ := yields_bind.mp h
    obtain ⟨rfl, -⟩ := yields_pure.mp h
    simp [EmittedNode.step]

/-- Gives the emitted nodes of a plan their final names. -/
def nameNodes (sink : GraphSink σ N F E) (plan : Plan) (emitted : List (EmittedNode N)) :
    SinkRun σ N F E (List (EmittedNode N)) :=
  match plan.finalName with
  | none => pure emitted
  | some name => sink.renameLast emitted name

/-- The nodes under their final names carry out the operators under theirs. -/
theorem nameNodes_yields {plan : Plan} {emitted out : List (EmittedNode N)} {s s' : σ}
    (he : emitted.map EmittedNode.step = plan.steps)
    (h : Yields (sink.nameNodes plan emitted) s out s') :
    out.map EmittedNode.step = plan.finalSteps := by
  unfold nameNodes at h
  unfold Plan.finalSteps
  cases hn : plan.finalName with
  | none =>
    rw [hn] at h
    obtain ⟨rfl, -⟩ := yields_pure.mp h
    exact he
  | some name =>
    rw [hn] at h
    rw [renameLast_yields h, he]

/-! ### Builds -/

/-- Frames the emitted nodes if a frame is wanted. -/
def frameIf (sink : GraphSink σ N F E) (addFrame : Bool) (emitted : List (EmittedNode N))
    (label : String) : SinkRun σ N F E (Option F) :=
  if addFrame then sink.frameNodes emitted label else pure none

/-- What a build does once the sink is ready and the plan is not cancelled. -/
def buildNodes (sink : GraphSink σ N F E) (plan : Plan) (label : String) (addFrame : Bool) :
    SinkRun σ N F E (CompileOutput N F) := do
  let emitted ← plan.steps.foldlM sink.emitStep []
  let named ← sink.nameNodes plan emitted
  let frame ← sink.frameIf addFrame named label
  sink.callRefresh
  return ⟨plan.status, named, plan.diagnostics, frame⟩

/-- A build as a sequence of its stages. -/
theorem build_eq (plan : Plan) (label : String) (addFrame : Bool) :
    sink.build plan label addFrame = (do
      sink.call .ensureReady
      if plan.status = .cancelled then return ⟨.cancelled, [], plan.diagnostics, none⟩
      else sink.buildNodes plan label addFrame) := by
  unfold build buildNodes nameNodes frameIf
  congr 1
  funext _
  by_cases hc : plan.status = .cancelled
  · rw [if_pos hc, if_pos hc]
  · rw [if_neg hc, if_neg hc]
    cases plan.finalName <;> cases addFrame <;> rfl

/-- The stages of a build that is not cancelled. -/
theorem buildNodes_yields {plan : Plan} {label : String} {addFrame : Bool} {s s' : σ}
    {out : CompileOutput N F} (h : Yields (sink.buildNodes plan label addFrame) s out s') :
    ∃ emitted s₁ named s₂ frame s₃,
      Yields (plan.steps.foldlM sink.emitStep []) s emitted s₁ ∧
      Yields (sink.nameNodes plan emitted) s₁ named s₂ ∧
      Yields (sink.frameIf addFrame named label) s₂ frame s₃ ∧
      out = ⟨plan.status, named, plan.diagnostics, frame⟩ ∧ s' = sink.refresh s₃ := by
  unfold buildNodes at h
  obtain ⟨emitted, s₁, hemit, h⟩ := yields_bind.mp h
  obtain ⟨named, s₂, hname, h⟩ := yields_bind.mp h
  obtain ⟨frame, s₃, hframe, h⟩ := yields_bind.mp h
  obtain ⟨_, s₄, hrefresh, h⟩ := yields_bind.mp h
  obtain ⟨rfl, rfl⟩ := yields_pure.mp h
  cases hrefresh
  exact ⟨emitted, s₁, named, s₂, frame, s₃, hemit, hname, hframe, rfl, rfl⟩

/-- **A build carries out its plan**: it ends as planned with the planned diagnostics, and its nodes
carry out the planned operators under their final names; a cancelled build has no nodes. -/
theorem build_yields {plan : Plan} {label : String} {addFrame : Bool} {s s' : σ}
    {out : CompileOutput N F} (h : Yields (sink.build plan label addFrame) s out s') :
    out.status = plan.status ∧ out.diagnostics = plan.diagnostics ∧
      out.nodes.map EmittedNode.step =
        if plan.status = .cancelled then [] else plan.finalSteps := by
  rw [build_eq] at h
  obtain ⟨_, s₁, -, h⟩ := yields_bind.mp h
  by_cases hc : plan.status = .cancelled
  · rw [if_pos hc] at h
    obtain ⟨rfl, -⟩ := yields_pure.mp h
    exact ⟨hc.symm, rfl, by simp [hc]⟩
  · rw [if_neg hc] at h
    obtain ⟨emitted, s₂, named, s₃, frame, s₄, hemit, hname, -, rfl, -⟩ := buildNodes_yields h
    have he := foldlM_emitStep_yields hemit
    refine ⟨rfl, rfl, ?_⟩
    rw [if_neg hc]
    exact nameNodes_yields (by simpa using he) hname

/-- The nodes have their places in the list as their places in the formula. -/
def InSequence (nodes : List (EmittedNode N)) : Prop :=
  nodes.map (·.sequenceIndex) = List.range nodes.length

theorem foldlM_emitStep_sequence {steps : List Step} {emitted out : List (EmittedNode N)}
    {s s' : σ} (he : InSequence emitted)
    (h : Yields (steps.foldlM sink.emitStep emitted) s out s') : InSequence out := by
  induction steps generalizing emitted s with
  | nil =>
    obtain ⟨rfl, -⟩ := yields_pure.mp h
    exact he
  | cons step steps ih =>
    obtain ⟨emitted', s₁, h₁, h₂⟩ := yields_bind.mp h
    obtain ⟨node, rfl, -, hindex⟩ := emitStep_yields h₁
    refine ih ?_ h₂
    rw [InSequence, List.map_append, he, List.length_append, List.length_singleton,
      List.range_succ, List.map_singleton, hindex]

theorem nameNodes_sequence {plan : Plan} {emitted out : List (EmittedNode N)} {s s' : σ}
    (he : InSequence emitted) (h : Yields (sink.nameNodes plan emitted) s out s') :
    InSequence out := by
  unfold nameNodes renameLast at h
  cases hn : plan.finalName with
  | none =>
    rw [hn] at h
    obtain ⟨rfl, -⟩ := yields_pure.mp h
    exact he
  | some name =>
    rw [hn] at h
    rcases List.eq_nil_or_concat emitted with rfl | ⟨front, last, rfl⟩
    · obtain ⟨rfl, -⟩ := yields_pure.mp h
      exact he
    · simp only [List.concat_eq_append, List.getLast?_concat, List.dropLast_concat] at h he
      obtain ⟨_, _, -, h⟩ := yields_bind.mp h
      obtain ⟨rfl, -⟩ := yields_pure.mp h
      simpa [InSequence] using he

/-- There is a frame exactly if one is wanted and there is something to put into it. -/
theorem frameIf_yields {addFrame : Bool} {emitted : List (EmittedNode N)} {label : String}
    {frame : Option F} {s s' : σ} (h : Yields (sink.frameIf addFrame emitted label) s frame s') :
    frame.isSome = (addFrame && !emitted.isEmpty) := by
  unfold frameIf frameNodes at h
  cases addFrame with
  | false =>
    obtain ⟨rfl, -⟩ := yields_pure.mp h
    rfl
  | true =>
    rw [if_pos rfl] at h
    cases he : emitted.isEmpty with
    | true =>
      rw [he] at h
      obtain ⟨rfl, -⟩ := yields_pure.mp h
      rfl
    | false =>
      rw [he] at h
      obtain ⟨_, _, -, h⟩ := yields_bind.mp h
      obtain ⟨_, _, -, h⟩ := yields_bind.mp h
      obtain ⟨rfl, -⟩ := yields_pure.mp h
      rfl

/-- **How a build lays out what it gives**: the nodes are in the order of the formula, and a build
that is not cancelled has a frame exactly if one is wanted and there are nodes. -/
theorem build_layout {plan : Plan} {label : String} {addFrame : Bool} {s s' : σ}
    {out : CompileOutput N F} (h : Yields (sink.build plan label addFrame) s out s') :
    InSequence out.nodes ∧
      out.frame.isSome = (plan.status ≠ .cancelled && addFrame && !out.nodes.isEmpty) := by
  rw [build_eq] at h
  obtain ⟨_, s₁, -, h⟩ := yields_bind.mp h
  by_cases hc : plan.status = .cancelled
  · rw [if_pos hc] at h
    obtain ⟨rfl, -⟩ := yields_pure.mp h
    exact ⟨rfl, by simp [hc]⟩
  · rw [if_neg hc] at h
    obtain ⟨emitted, s₂, named, s₃, frame, s₄, hemit, hname, hframe, rfl, -⟩ :=
      buildNodes_yields h
    have hnone : InSequence ([] : List (EmittedNode N)) := rfl
    refine ⟨nameNodes_sequence (foldlM_emitStep_sequence hnone hemit) hname, ?_⟩
    simpa [hc] using frameIf_yields hframe

/-! ### Compilations -/

/-- With valid settings a compilation is the build of the plan of its formula. -/
theorem compile_of_isValid {catalog : Catalog} {settings : Settings} {s : σ}
    (hv : settings.isValid = true) :
    sink.compile catalog settings s =
      (((sink.build (Plan.ofFormula catalog settings.tempName settings.formula)
          settings.formula settings.addFrame).outcome s).1.mapError .sink,
        ((sink.build (Plan.ofFormula catalog settings.tempName settings.formula)
          settings.formula settings.addFrame).outcome s).2) := by
  unfold compile
  rw [if_pos hv]
  rfl

/-- A compilation gives an output exactly if its settings are valid and the build gives it. -/
theorem compile_eq_ok {catalog : Catalog} {settings : Settings} {s s' : σ}
    {out : CompileOutput N F} :
    sink.compile catalog settings s = (.ok out, s') ↔
      settings.isValid = true ∧
        Yields (sink.build (Plan.ofFormula catalog settings.tempName settings.formula)
          settings.formula settings.addFrame) s out s' := by
  by_cases hv : settings.isValid = true
  · rw [compile_of_isValid hv, Yields]
    cases (sink.build (Plan.ofFormula catalog settings.tempName settings.formula)
      settings.formula settings.addFrame).outcome s with
    | mk result s₁ => cases result <;> simp [hv, Except.mapError]
  · simp [compile, hv]

/-- A sink that is not ready refuses every compilation. -/
theorem compile_of_notReady {catalog : Catalog} {settings : Settings} {s s' : σ}
    {e : SinkError N F E} (hv : settings.isValid = true)
    (h : sink.perform .ensureReady s = (.error e, s')) :
    sink.compile catalog settings s = (.error (.sink e), s') := by
  have hb : (sink.build (Plan.ofFormula catalog settings.tempName settings.formula)
      settings.formula settings.addFrame).outcome s = (.error e, s') := by
    rw [build_eq]
    exact outcome_bind_of_error h
  rw [compile_of_isValid hv, hb]
  rfl

end GraphSink

namespace Plan

section Before

variable {catalog : Catalog} {stem : String} {words₁ words₂ : List String}

theorem takeWhile_of_notMem (h : resultArrow ∉ words₁) :
    (words₁ ++ words₂).takeWhile (· ≠ resultArrow) =
      words₁ ++ words₂.takeWhile (· ≠ resultArrow) := by
  refine List.takeWhile_append_of_pos fun word hword => ?_
  simpa using ne_of_mem_of_not_mem hword h

/-- Words without an arrow are all read. -/
theorem evaluationBefore_of_notMem (h : resultArrow ∉ words₁) :
    evaluationBefore catalog stem words₁ = Evaluation.start.readWords catalog stem words₁ := by
  have hwhole : (words₁ ++ []).takeWhile (· ≠ resultArrow) = words₁ ++ [] := takeWhile_of_notMem h
  rw [List.append_nil] at hwhole
  rw [evaluationBefore, hwhole]

/-- Words without an arrow are read before those that follow. -/
theorem evaluationBefore_append_of_notMem (h : resultArrow ∉ words₁) :
    evaluationBefore catalog stem (words₁ ++ words₂) =
      (evaluationBefore catalog stem words₁).readWords catalog stem
        (words₂.takeWhile (· ≠ resultArrow)) := by
  rw [evaluationBefore_of_notMem h, evaluationBefore, takeWhile_of_notMem h]
  exact List.foldl_append

end Before

/-- A plan is cancelled if there is a result arrow but no operator before it. Otherwise it asks for
what the words before the arrow ask for, and the arrow names the result after the last word. -/
theorem ofWords_cases (catalog : Catalog) (stem : String) (words : List String) :
    (resultArrow ∈ words ∧ (evaluationBefore catalog stem words).steps = [] ∧
      ofWords catalog stem words =
        ⟨[], (evaluationBefore catalog stem words).diagnostics ++ [nothingToName], .cancelled,
          none⟩) ∨
    ((resultArrow ∈ words → (evaluationBefore catalog stem words).steps ≠ []) ∧
      ofWords catalog stem words =
        ⟨(evaluationBefore catalog stem words).steps,
          (evaluationBefore catalog stem words).diagnostics, .finished,
          if resultArrow ∈ words then words.getLast? else none⟩) := by
  unfold ofWords
  by_cases ha : resultArrow ∈ words
  · by_cases hs : (evaluationBefore catalog stem words).steps = []
    · simp [ha, hs]
    · simp [ha, hs]
  · simp [ha]

/-- The operators of a plan are those before the first result arrow. -/
theorem steps_ofWords (catalog : Catalog) (stem : String) (words : List String) :
    (ofWords catalog stem words).steps = (evaluationBefore catalog stem words).steps := by
  rcases ofWords_cases catalog stem words with ⟨-, hs, hplan⟩ | ⟨-, hplan⟩
  · rw [hplan, hs]
  · rw [hplan]

variable {catalog : Catalog} {stem : String} {words : List String}

/-- A final name comes with a result arrow: it is the last word, and there is an operator. -/
theorem arrow_of_finalName {name : String}
    (h : (ofWords catalog stem words).finalName = some name) :
    resultArrow ∈ words ∧ words.getLast? = some name ∧
      (evaluationBefore catalog stem words).steps ≠ [] := by
  rcases ofWords_cases catalog stem words with ⟨-, -, hplan⟩ | ⟨hne, hplan⟩
  · rw [hplan] at h
    cases h
  · rw [hplan, Option.ite_none_right_eq_some] at h
    exact ⟨h.1, h.2, hne h.1⟩

/-- Only a plan with operators has a final name. -/
theorem steps_ne_nil_of_finalName {name : String}
    (h : (ofWords catalog stem words).finalName = some name) :
    (evaluationBefore catalog stem words).steps ≠ [] :=
  (arrow_of_finalName h).2.2

/-- A cancelled plan has no operators. -/
theorem steps_of_cancelled (h : (ofWords catalog stem words).status = .cancelled) :
    (ofWords catalog stem words).finalSteps = [] := by
  rcases ofWords_cases catalog stem words with ⟨-, -, hplan⟩ | ⟨-, hplan⟩
  · rw [hplan]
    rfl
  · rw [hplan] at h
    cases h

/-- A plan that is not cancelled asks for what its words before the arrow ask for. -/
theorem ofWords_of_finished (h : (ofWords catalog stem words).status = .finished) :
    (resultArrow ∈ words → (evaluationBefore catalog stem words).steps ≠ []) ∧
      ofWords catalog stem words =
        ⟨(evaluationBefore catalog stem words).steps,
          (evaluationBefore catalog stem words).diagnostics, .finished,
          if resultArrow ∈ words then words.getLast? else none⟩ := by
  rcases ofWords_cases catalog stem words with ⟨-, -, hplan⟩ | h'
  · rw [hplan] at h
    cases h
  · exact h'

/-- A plan without reports is not cancelled. -/
theorem finished_of_clean (h : (ofWords catalog stem words).diagnostics = []) :
    (ofWords catalog stem words).status = .finished := by
  rcases ofWords_cases catalog stem words with ⟨-, -, hplan⟩ | ⟨-, hplan⟩
  · rw [hplan, List.append_eq_nil_iff] at h
    cases h.2
  · rw [hplan]

/-- An operator is enough for a plan not to be cancelled. -/
theorem finished_of_steps
    (h : resultArrow ∈ words → (evaluationBefore catalog stem words).steps ≠ []) :
    (ofWords catalog stem words).status = .finished := by
  rcases ofWords_cases catalog stem words with ⟨ha, hs, -⟩ | ⟨-, hplan⟩
  · exact absurd hs (h ha)
  · rw [hplan]

end Plan

namespace GraphSink

open SinkRun

/-- **A compilation carries out the plan of its formula.** -/
theorem compile_nodes {sink : GraphSink σ N F E} {catalog : Catalog} {settings : Settings}
    {s : σ} {out : CompileOutput N F} (h : (sink.compile catalog settings s).1 = .ok out) :
    out.status = (Plan.ofFormula catalog settings.tempName settings.formula).status ∧
      out.diagnostics = (Plan.ofFormula catalog settings.tempName settings.formula).diagnostics ∧
      out.nodes.map EmittedNode.step =
        (Plan.ofFormula catalog settings.tempName settings.formula).finalSteps := by
  obtain ⟨-, hb⟩ := compile_eq_ok.mp (Prod.ext h rfl)
  obtain ⟨hs, hd, hn⟩ := build_yields hb
  refine ⟨hs, hd, hn.trans ?_⟩
  by_cases hc : (Plan.ofFormula catalog settings.tempName settings.formula).status = .cancelled
  · rw [if_pos hc]
    exact (Plan.steps_of_cancelled hc).symm
  · rw [if_neg hc]

/-- The result arrow names the result of a compilation. -/
theorem resultName_of_arrow {sink : GraphSink σ N F E} {catalog : Catalog} {settings : Settings}
    {s : σ} {out : CompileOutput N F}
    (h : (sink.compile catalog settings s).1 = .ok out)
    (harrow : resultArrow ∈ tokenize settings.formula) (hfinished : out.status = .finished) :
    out.resultName = (tokenize settings.formula).getLast? := by
  obtain ⟨hstatus, -, hnodes⟩ := compile_nodes h
  have hplanned := hstatus.symm.trans hfinished
  obtain ⟨hne, hplan⟩ := Plan.ofWords_of_finished hplanned
  obtain ⟨front, last, hsteps⟩ := (List.eq_nil_or_concat _).resolve_left (hne harrow)
  obtain ⟨name, hname⟩ : ∃ name, (tokenize settings.formula).getLast? = some name :=
    Option.isSome_iff_exists.mp (List.getLast?_isSome.mpr (List.ne_nil_of_mem harrow))
  have hfinal : out.nodes.map EmittedNode.step = front ++ [{ last with resultName := name }] := by
    rw [hnodes, Plan.ofFormula, hplan, if_pos harrow, hname, hsteps,
      List.concat_eq_append]
    exact Step.renameLast_concat front last name
  have hlast := congrArg (fun steps => steps.getLast?.map (·.resultName)) hfinal
  simp only [List.getLast?_map, Option.map_map, List.getLast?_concat, Option.map_some] at hlast
  rw [hname]
  exact hlast

/-! ### What a compilation keeps -/

section Keeps

variable {sink : GraphSink σ N F E} {P : σ → Prop}
  (hperform : ∀ (request : Request N F) (s : σ), P s → P (sink.perform request s).2)
  (hrefresh : ∀ s, P s → P (sink.refresh s))

include hperform

theorem preserves_call (request : Request N F) : Preserves P (sink.call request) :=
  fun s hs => hperform request s hs

theorem preserves_place (previous : Option (EmittedNode N)) (node : N) :
    Preserves P (sink.place previous node) := by
  have hcall := preserves_call (P := P) hperform
  unfold place
  cases previous with
  | none => exact (preserves_pure _).bind fun _ => (hcall _).bind fun _ => preserves_pure _
  | some before =>
    refine (hcall _).bind fun layout => (hcall _).bind fun _ => ?_
    exact (preserves_pure _).bind fun _ => (hcall _).bind fun _ => preserves_pure _

theorem preserves_emitStep (emitted : List (EmittedNode N)) (step : Step) :
    Preserves P (sink.emitStep emitted step) := by
  have hcall := preserves_call (P := P) hperform
  unfold emitStep
  refine (hcall _).bind fun node => (preserves_place hperform _ _).bind fun position => ?_
  refine (hcall _).bind fun _ => Preserves.bind (preserves_forM fun binding => ?_) fun _ => ?_
  · exact (hcall _).bind fun _ => hcall _
  · exact (hcall _).bind fun _ => preserves_pure _

theorem preserves_nameNodes (plan : Plan) (emitted : List (EmittedNode N)) :
    Preserves P (sink.nameNodes plan emitted) := by
  unfold nameNodes renameLast
  cases plan.finalName with
  | none => exact preserves_pure _
  | some name =>
    cases emitted.getLast? with
    | none => exact preserves_pure _
    | some last => exact (preserves_call hperform _).bind fun _ => preserves_pure _

theorem preserves_frameIf (addFrame : Bool) (emitted : List (EmittedNode N)) (label : String) :
    Preserves P (sink.frameIf addFrame emitted label) := by
  have hcall := preserves_call (P := P) hperform
  unfold frameIf frameNodes
  cases addFrame with
  | false => exact preserves_pure _
  | true =>
    cases emitted.isEmpty with
    | true => exact preserves_pure _
    | false =>
      refine (hcall _).bind fun frame => Preserves.bind (preserves_forM fun node => ?_) fun _ => ?_
      · exact hcall _
      · exact preserves_pure _

include hrefresh

/-- **A compilation keeps what requests and refreshes keep**, also one that is refused. -/
theorem compile_preserves (catalog : Catalog) (settings : Settings) {s : σ} (hs : P s) :
    P (sink.compile catalog settings s).2 := by
  by_cases hv : settings.isValid = true
  · rw [compile_of_isValid hv]
    refine (?_ : Preserves P (sink.build _ _ _)) s hs
    rw [build_eq]
    refine (preserves_call hperform _).bind fun _ => ?_
    split
    · exact preserves_pure _
    · refine Preserves.bind (preserves_foldlM (preserves_emitStep hperform) _) fun emitted => ?_
      refine (preserves_nameNodes hperform _ _).bind fun named => ?_
      refine (preserves_frameIf hperform _ _ _).bind fun frame => ?_
      exact Preserves.bind (fun s hs => hrefresh s hs) fun _ => preserves_pure _
  · rw [compile, if_neg hv]
    exact hs

end Keeps

end GraphSink

end FormulaChain
