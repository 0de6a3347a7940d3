import FormulaChain.Proofs.Catalog.Builtin
import FormulaChain.Proofs.Formula.Operators
import FormulaChain.Proofs.Formula.Reference
import FormulaChain.Proofs.Node.Binding

/-!
# What bindings tell of the operands of formulas

An operator of a formula is handed as many operands as a node can take, and no name among them has a
space in it: names are words, or are made from a stem without blanks (`Handed.space_notMem`). So
bindings lose no operand of a formula and confuse none (`Operation.bind_eq_bind_iff`).
-/

namespace FormulaChain

/-- The operands that are handed to an operator when a formula is compiled with valid settings and a
catalog that was made from tables. -/
inductive Handed : List Operand → Prop where
  /-- The operands of any operator of the plan. -/
  | intro {scalar vector : List OperatorSpec} {catalog : Catalog} {settings : Settings}
    {step : Step} (hcatalog : Catalog.ofTables scalar vector = .ok catalog)
    (hvalid : settings.isValid = true)
    (hstep : step ∈ (Plan.ofFormula catalog settings.tempName settings.formula).steps) :
    Handed step.args

/-- The nodes of every compilation, into whatever sink, bind operands that were handed to them. -/
theorem GraphSink.handed_of_compile {σ N F E : Type} {sink : GraphSink σ N F E}
    {scalar vector : List OperatorSpec} {catalog : Catalog} {settings : Settings} {s s' : σ}
    {out : CompileOutput N F} (hcatalog : Catalog.ofTables scalar vector = .ok catalog)
    (h : sink.compile catalog settings s = (.ok out, s')) :
    ∀ node ∈ out.nodes, Handed node.args := by
  intro node hnode
  obtain ⟨hvalid, -⟩ := compile_eq_ok.mp h
  obtain ⟨-, -, hnodes⟩ := compile_nodes (congrArg Prod.fst h)
  have hfinal : node.step ∈
      (Plan.ofFormula catalog settings.tempName settings.formula).finalSteps :=
    hnodes ▸ List.mem_map_of_mem hnode
  obtain ⟨step, hstep, hargs⟩ := Plan.exists_args_eq hfinal
  have hargs : step.args = node.args := hargs
  exact hargs ▸ Handed.intro hcatalog hvalid hstep

namespace Handed

variable {args : List Operand}

/-- There are as many operands as a node can take. -/
theorem length_bounds (h : Handed args) : 1 ≤ args.length ∧ args.length ≤ 3 := by
  obtain ⟨hcatalog, -, hstep⟩ := h
  rw [Plan.ofFormula, Plan.steps_ofWords] at hstep
  exact Evaluation.length_args_bounds (Catalog.wellFormed_ofTables hcatalog) hstep

/-- **No name has a space in it.** -/
theorem space_notMem (h : Handed args) {name : String} (hname : .reference name ∈ args) :
    ' ' ∉ name.toList := by
  obtain ⟨-, hvalid, hstep⟩ := h
  -- Words are cut at spaces; a stem is checked for blanks; the third kind of name is fixed.
  refine Plan.forall_reference (P := fun text => ' ' ∉ text.toList) (by decide)
    (space_notMem_syntheticName hvalid) (fun word hword hspace => ?_) hstep hname
  exact absurd ((isToken_of_mem_tokenize hword).noSeparator ' ' hspace) (by decide)

theorem legible (h : Handed args) (hnumbers : ∀ x ∈ args, ∀ s ∈ x.numbers, s.IsNumber) :
    ∀ x ∈ args, x.Legible := fun x hx =>
  ⟨hnumbers x hx, fun _ heq => h.space_notMem (heq ▸ hx)⟩

end Handed

/-- **Binding loses no operand and confuses none.** Whatever formulas two lists of operands come
from, an operation binds them alike exactly if they count as the same, as long as no number in them
is "not a number"; and no name among them is the text of a vector. -/
theorem Operation.bind_eq_bind_iff {args args' : List Operand} (h : Handed args)
    (h' : Handed args') (hnumbers : ∀ x ∈ args, ∀ s ∈ x.numbers, s.IsNumber)
    (hnumbers' : ∀ x ∈ args', ∀ s ∈ x.numbers, s.IsNumber) (operation : Operation) :
    (operation.bind args = operation.bind args' ↔ operation.ArgsAgree args args') ∧
      ∀ (t : Triple) (name : String), .reference name ∈ args → t.attributeText ≠ name :=
  ⟨bind_eq_iff_of_legible operation h.length_bounds.2 h'.length_bounds.2 (h.legible hnumbers)
      (h'.legible hnumbers'),
    fun t _ hname heq => h.space_notMem hname (heq ▸ space_mem_attributeText t)⟩

/-- A scaling does not tell the number two from the vector of three twos in the place of its vector,
but does in the place of its factor; and an attribute named `height` is no vector. -/
theorem Operation.bind_eq_bind_iff_scale :
    let two : Operand := .scalar (.ofNat 2)
    let twos : Operand := .vector (.splat (.ofNat 2))
    (Operation.vector .scale).bind [twos, two] = (Operation.vector .scale).bind [two, two] ∧
      (Operation.vector .scale).bind [two, twos] ≠ (Operation.vector .scale).bind [two, two] ∧
      ∀ t : Triple, t.attributeText ≠ "height" := by
  intro two twos
  let formula := "(2 2 2) 2 scale 2 (2 2 2) scale 2 2 scale height 2 scale"
  let lists := [[twos, two], [two, twos], [two, two], [.reference "height", two]]
  have hplan : (Plan.ofFormula .builtin "mf_temp" formula).steps.map Step.args = lists := by
    decide +kernel
  have hvalid : Settings.isValid ⟨formula, "mf_temp", true⟩ = true := by decide
  have hhanded : ∀ args ∈ lists, Handed args := by
    intro args hargs
    obtain ⟨step, hstep, rfl⟩ := List.mem_map.mp (hplan ▸ hargs)
    exact Handed.intro Catalog.ofTables_builtin hvalid hstep
  have hnumbers : ∀ args ∈ lists, ∀ x ∈ args, ∀ s ∈ x.numbers, s.IsNumber := by decide +kernel
  have hvector : [twos, two] ∈ lists := by simp [lists]
  have hfactor : [two, twos] ∈ lists := by simp [lists]
  have hboth : [two, two] ∈ lists := by simp [lists]
  have hheight : [.reference "height", two] ∈ lists := by simp [lists]
  obtain ⟨hsame, -⟩ := bind_eq_bind_iff (hhanded _ hvector) (hhanded _ hboth) (hnumbers _ hvector)
    (hnumbers _ hboth) (.vector .scale)
  obtain ⟨hdiffer, -⟩ := bind_eq_bind_iff (hhanded _ hfactor) (hhanded _ hboth)
    (hnumbers _ hfactor) (hnumbers _ hboth) (.vector .scale)
  obtain ⟨-, hname⟩ := bind_eq_bind_iff (hhanded _ hheight) (hhanded _ hboth)
    (hnumbers _ hheight) (hnumbers _ hboth) (.vector .scale)
  refine ⟨hsame.mpr ⟨rfl, ?_⟩, fun heq => ?_, fun t => hname t "height" List.mem_cons_self⟩
  · rintro (_ | _ | position) hlt hlt'
    · exact .vectorScalar rfl _
    · exact .refl _
    · exact absurd hlt (by simp)
  · have hsecond : twos.Agrees false two := (hdiffer.mp heq).agrees 1 (by decide) (by decide)
    exact absurd (Operand.agrees_false_iff.mp hsecond) (by simp [twos, two])

end FormulaChain
