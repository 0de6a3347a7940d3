import FormulaChain.Catalog.Builtin
import FormulaChain.Proofs.Formula.Restem
import FormulaChain.Proofs.Sink.Layout

/-!
# Compiling under another stem

The stem of synthetic names is a matter of taste: compilations of one formula with two stems that
nothing in the formula begins with give the same output up to the names of results
(`compile_restem`).
-/

namespace FormulaChain

variable {p q : String} {words : List String} {f : String → String}

/-! ### Plans -/

theorem Step.renameLast_mapNames {name : String} (hname : f name = name) (steps : List Step) :
    Step.renameLast (steps.map (·.mapNames f)) name =
      (Step.renameLast steps name).map (·.mapNames f) := by
  rcases List.eq_nil_or_concat steps with rfl | ⟨front, last, rfl⟩
  · rfl
  · rw [List.concat_eq_append, Step.renameLast_concat, List.map_append, List.map_append,
      List.map_singleton, List.map_singleton, Step.renameLast_concat]
    simp only [Step.mapNames, hname]

namespace Plan

/-- A plan and its counterpart under renamed results. -/
structure Renamed (f : String → String) (plan plan' : Plan) : Prop where
  /-- Operators read and write the corresponding names. -/
  steps : plan'.steps = plan.steps.map (·.mapNames f)
  /-- The reports have the same kinds. -/
  kinds : kindsOf plan'.diagnostics = kindsOf plan.diagnostics
  /-- The builds end alike. -/
  status : plan'.status = plan.status
  /-- The final name is the same. -/
  finalName : plan'.finalName = plan.finalName
  /-- The final name is not replaced. -/
  keepsFinal : ∀ name ∈ plan.finalName, f name = name

theorem Renamed.finalSteps {plan plan' : Plan} (h : Renamed f plan plan') :
    plan'.finalSteps = plan.finalSteps.map (·.mapNames f) := by
  unfold Plan.finalSteps
  rw [h.finalName, h.steps]
  cases hname : plan.finalName with
  | none => rfl
  | some name => exact Step.renameLast_mapNames (h.keepsFinal name hname) plan.steps

theorem evaluationBefore_restem (hp : Foreign p words) (hq : Foreign q words)
    (catalog : Catalog) :
    FormulaChain.Renamed p q (evaluationBefore catalog p words)
      (evaluationBefore catalog q words) := by
  have hsub : ∀ word ∈ words.takeWhile (· ≠ resultArrow), word ∈ words :=
    fun word hword => (List.takeWhile_sublist _).subset hword
  exact (Renamed.start p q).readWords
    ⟨hp.plain, fun word hword => hp.words word (hsub word hword), hp.missing⟩
    ⟨hq.plain, fun word hword => hq.words word (hsub word hword), hq.missing⟩ catalog

/-- **The plans of a formula under two stems.** -/
theorem ofWords_restem (hp : Foreign p words) (hq : Foreign q words) (catalog : Catalog) :
    Renamed (restem p q) (ofWords catalog p words) (ofWords catalog q words) := by
  have he := evaluationBefore_restem hp hq catalog
  have hnil : (evaluationBefore catalog q words).steps = [] ↔
      (evaluationBefore catalog p words).steps = [] := by
    rw [he.steps, List.map_eq_nil_iff]
  have hlast : ∀ name ∈ words.getLast?, restem p q name = name :=
    fun name hname => restem_of_not_hasStem (hp.words name (List.mem_of_getLast? hname)) q
  unfold ofWords
  by_cases ha : resultArrow ∈ words
  · by_cases hs : (evaluationBefore catalog p words).steps = []
    · simp only [if_pos ha, if_pos hs, if_pos (hnil.mpr hs)]
      exact ⟨rfl, by rw [kindsOf_append, kindsOf_append, he.kinds], rfl, rfl, by simp⟩
    · simp only [if_pos ha, if_neg hs, if_neg (mt hnil.mp hs)]
      exact ⟨he.steps, he.kinds, rfl, rfl, hlast⟩
  · simp only [if_neg ha]
    exact ⟨he.steps, he.kinds, rfl, rfl, by simp⟩

end Plan

/-! ### Nodes -/

/-- The names that a node reads and writes are replaced. -/
def EmittedNode.mapNames {N : Type} (f : String → String) (node : EmittedNode N) :
    EmittedNode N :=
  { node with
    args := node.args.map (·.mapName f)
    bindings := node.bindings.map (·.mapName f)
    resultName := f node.resultName }

theorem placed_mapNames (hf : ∀ t : Triple, f t.attributeText = t.attributeText) (i : Nat)
    (step : Step) : placed i (step.mapNames f) = (placed i step).mapNames f := by
  simp only [placed, EmittedNode.mapNames, Step.mapNames, Operation.bind_mapName hf]

namespace Recording

theorem placedIn_mapNames (hf : ∀ t : Triple, f t.attributeText = t.attributeText)
    (r : Recording) (steps : List Step) :
    r.placedIn (steps.map (·.mapNames f)) = (r.placedIn steps).map (·.mapNames f) := by
  apply List.ext_getElem
  · simp [placedIn]
  · intro i _ _
    simp only [placedIn, placedAll, List.getElem_map, List.getElem_mapIdx, placed_mapNames hf]
    rfl

/-- A frame is made in both builds or in none. -/
theorem frameOf_renamed {plan plan' : Plan} (h : Plan.Renamed f plan plan') (r : Recording)
    (addFrame : Bool) : r.frameOf plan' addFrame = r.frameOf plan addFrame := by
  have hnil : plan'.steps ≠ [] ↔ plan.steps ≠ [] := by rw [h.steps, ne_eq, List.map_eq_nil_iff]
  simp only [frameOf, hnil]

/-- **The stem of synthetic names does not matter.** If two stems are valid and plain, and if no
word of a formula and not the placeholder of a missing operand begins with either, then compilations
with them into equal recording sinks give outputs of the same status and frame, with reports of the
same kinds in the same order, and with the same nodes, but for the names of results: wherever a node
reads or writes one, it is replaced by the name with the same number under the other stem. -/
theorem compile_restem {formula : String} (hvalidp : Settings.validStem p = true)
    (hvalidq : Settings.validStem q = true) (hp : Foreign p (tokenize formula))
    (hq : Foreign q (tokenize formula)) (catalog : Catalog) (addFrame : Bool) (r : Recording) :
    ∃ out out', (sink.compile catalog ⟨formula, p, addFrame⟩ r).1 = .ok out ∧
      (sink.compile catalog ⟨formula, q, addFrame⟩ r).1 = .ok out' ∧
      out'.status = out.status ∧
      out'.nodes = out.nodes.map (·.mapNames (restem p q)) ∧
      kindsOf out'.diagnostics = kindsOf out.diagnostics ∧
      out'.frame = out.frame := by
  have hplans := Plan.ofWords_restem hp hq catalog
  have htexts : ∀ t : Triple, restem p q t.attributeText = t.attributeText :=
    fun t => restem_of_ne (attributeText_ne hvalidp t) q
  have hsettings : Settings.isValid ⟨formula, p, addFrame⟩ = true := hvalidp
  have hsettings' : Settings.isValid ⟨formula, q, addFrame⟩ = true := hvalidq
  refine ⟨_, _, congrArg Prod.fst (compile_eq hsettings r),
    congrArg Prod.fst (compile_eq hsettings' r), hplans.status, ?_, hplans.kinds,
    frameOf_renamed hplans r addFrame⟩
  show r.placedIn (Plan.ofWords catalog q (tokenize formula)).finalSteps =
    (r.placedIn (Plan.ofWords catalog p (tokenize formula)).finalSteps).map _
  rw [hplans.finalSteps, placedIn_mapNames htexts]

/-- The sum reads the results of the sine and the cosine, whichever stem names them. -/
theorem compile_restem_sum :
    ∃ out, (sink.compile .builtin ⟨"1 sin 2 cos + (3 -> total", "step_", true⟩ .empty).1 = .ok out ∧
      out.nodes.map (·.args) = [[.scalar (.ofNat 1)], [.scalar (.ofNat 2)],
        [.reference "step_", .reference "step_1"]] ∧
      out.nodes.map (·.resultName) = ["step_", "step_1", "total"] := by
  have hplain : PlainStem "mf_temp" :=
    plainStem_of_mem (c := '_') (by decide) (by decide) (by decide) (by decide)
  have hplain' : PlainStem "step_" :=
    plainStem_of_mem (c := '_') (by decide) (by decide) (by decide) (by decide)
  have hforeign : Foreign "mf_temp" (tokenize "1 sin 2 cos + (3 -> total") :=
    ⟨hplain, by decide +kernel, by decide⟩
  have hforeign' : Foreign "step_" (tokenize "1 sin 2 cos + (3 -> total") :=
    ⟨hplain', by decide +kernel, by decide⟩
  obtain ⟨out, out', hout, hout', -, hnodes, -, -⟩ :=
    compile_restem (by decide) (by decide) hforeign hforeign' .builtin true .empty
  have hsteps : (Plan.ofFormula .builtin "mf_temp" "1 sin 2 cos + (3 -> total").finalSteps =
      [⟨.scalar .sine, [.scalar (.ofNat 1)], "mf_temp"⟩,
        ⟨.scalar .cosine, [.scalar (.ofNat 2)], "mf_temp1"⟩,
        ⟨.scalar .add, [.reference "mf_temp", .reference "mf_temp1"], "total"⟩] := by
    decide +kernel
  rw [compile_eq (by decide), Except.ok.injEq] at hout
  rw [← hout, output, hsteps] at hnodes
  refine ⟨out', hout', ?_, ?_⟩
  · rw [hnodes]
    decide +kernel
  · rw [hnodes]
    decide +kernel

end Recording

end FormulaChain
