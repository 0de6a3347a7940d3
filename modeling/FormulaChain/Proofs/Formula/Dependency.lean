import FormulaChain.Proofs.Formula.Operators
import FormulaChain.Proofs.Formula.Referable
import FormulaChain.Proofs.Formula.Reuse
import FormulaChain.Proofs.Formula.Vector

/-!
# What becomes of the results that operators take

An operator takes the result of an earlier one from the stack by its name only. It is handed the
name if that is read as a name; the result is lost to it if its name is read as a number or ends a
vector literal, and also if a literal takes the name as one of its parts. Which stems keep all
dependencies of all formulas is decided by their first two names (`names_kept_iff`).
-/

namespace FormulaChain

namespace Evaluation

variable {stem : String} {operation : Operation} {arity : Nat} {e : Evaluation}
  {spec : OperatorSpec} {catalog : Catalog}

/-! ### One operand after the other -/

/-- What an operator leaves of a state when it has taken some of its operands. -/
def popped (stem : String) (e : Evaluation) (spec : OperatorSpec) (count : Nat) : Evaluation :=
  (e.takeOperands stem spec.operation spec.arity count []).2

theorem popped_arity : e.popped stem spec spec.arity = e.left stem spec := rfl

/-- The last of some operands is taken after the others. -/
theorem takeOperands_succ (e : Evaluation) (count : Nat) (taken : List Operand) :
    e.takeOperands stem operation arity (count + 1) taken =
      ((e.takeOperands stem operation arity count taken).1 ++
          [((e.takeOperands stem operation arity count taken).2.takeOperand stem operation arity
            (e.takeOperands stem operation arity count taken).1).1],
        ((e.takeOperands stem operation arity count taken).2.takeOperand stem operation arity
          (e.takeOperands stem operation arity count taken).1).2) := by
  induction count generalizing e taken with
  | zero => rfl
  | succ count ih =>
    rw [takeOperands]
    exact ih _ _

theorem popped_succ (e : Evaluation) (spec : OperatorSpec) (count : Nat) :
    e.popped stem spec (count + 1) =
      ((e.popped stem spec count).takeOperand stem spec.operation spec.arity
        (e.takeOperands stem spec.operation spec.arity count []).1).2 :=
  congrArg Prod.snd (takeOperands_succ e count [])

/-- What has been taken is not looked at again. -/
theorem getElem?_takeOperands (e : Evaluation) {position count : Nat} (h : position < count) :
    (e.takeOperands stem operation arity count []).1[position]? =
      some ((e.takeOperands stem operation arity position []).2.takeOperand stem operation arity
        (e.takeOperands stem operation arity position []).1).1 := by
  have hlength (count : Nat) : (e.takeOperands stem operation arity count []).1.length = count := by
    rw [length_takeOperands, List.length_nil, Nat.zero_add]
  induction count with
  | zero => exact absurd h (Nat.not_lt_zero _)
  | succ count ih =>
    rw [takeOperands_succ]
    rcases Nat.lt_succ_iff_lt_or_eq.mp h with hlt | rfl
    · rw [List.getElem?_append_left (by rw [hlength]; exact hlt), ih hlt]
    · rw [List.getElem?_append_right (by rw [hlength]), hlength, Nat.sub_self]
      rfl

/-- The operands reach the operator in the reverse order. -/
theorem getElem?_collectArgs (stem : String) (e : Evaluation) {count : Nat}
    (h : count < spec.arity) :
    (e.collectArgs stem spec.operation spec.arity).1[spec.arity - 1 - count]? =
      some ((e.popped stem spec count).takeOperand stem spec.operation spec.arity
        (e.takeOperands stem spec.operation spec.arity count []).1).1 := by
  have hlength : (e.takeOperands stem spec.operation spec.arity spec.arity []).1.length =
      spec.arity := by
    rw [length_takeOperands, List.length_nil, Nat.zero_add]
  show (e.takeOperands stem spec.operation spec.arity spec.arity []).1.reverse[_]? = _
  rw [List.getElem?_reverse (by omega), hlength]
  have hposition : spec.arity - 1 - (spec.arity - 1 - count) = count := by omega
  rw [hposition, getElem?_takeOperands e h]
  rfl

/-- The next operand is what is on top of the stack. -/
theorem popped_succ_of_head? {count : Nat} {entry : StackEntry}
    (h : (e.popped stem spec count).stack.head? = some entry) :
    ∃ below, (e.popped stem spec count).stack = entry :: below ∧
      (e.popped stem spec count).takeOperand stem spec.operation spec.arity
          (e.takeOperands stem spec.operation spec.arity count []).1 =
        ({ e.popped stem spec count with stack := below } : Evaluation).resolve stem entry.text ∧
      e.popped stem spec (count + 1) =
        (({ e.popped stem spec count with stack := below } : Evaluation).resolve stem
          entry.text).2 := by
  obtain ⟨below, hstack⟩ := List.head?_eq_some_iff.mp h
  have htaken : (e.popped stem spec count).takeOperand stem spec.operation spec.arity
      (e.takeOperands stem spec.operation spec.arity count []).1 =
        ({ e.popped stem spec count with stack := below } : Evaluation).resolve stem entry.text :=
    takeOperand_cons hstack _
  refine ⟨below, hstack, htaken, ?_⟩
  rw [← htaken, popped_succ]

theorem mem_of_head?_popped {count : Nat} {entry : StackEntry}
    (h : (e.popped stem spec count).stack.head? = some entry) : entry ∈ e.stack :=
  (takeOperands_suffix e count []).mem (List.mem_of_mem_head? h)

/-! ### What literals leave -/

/-- A literal that is not reported leaves everything that is no part of one. -/
theorem mem_resolve {entry : StackEntry} (hpart : ¬ LiteralPart entry.text)
    (hmem : entry ∈ e.stack) {text : String}
    (hno : NoneMalformed (e.resolve stem text).2.diagnostics) :
    entry ∈ (e.resolve stem text).2.stack := by
  cases hc : withoutClosing? text with
  | none =>
    rw [(resolve_of_not_closing hc).1]
    exact hmem
  | some fused =>
    rw [resolve_vector hc, takeVector_eq] at hno ⊢
    have hreports : literalReports fused e.stack = [] :=
      List.eq_nil_iff_forall_not_mem.mpr fun d hd =>
        (noneMalformed_append.mp hno).2 d hd (kind_of_mem_literalReports hd)
    rw [← List.take_append_drop (literalLength fused e.stack) e.stack, List.mem_append] at hmem
    rcases hmem with hmem | hmem
    · exact absurd (literalPart_of_mem hreports hmem) hpart
    · exact hmem

/-- What is no part of a literal still waits or was taken as an operand of its own, as long as no
literal is reported. -/
theorem mem_popped_or_found {entry : StackEntry} (hpart : ¬ LiteralPart entry.text)
    (hmem : entry ∈ e.stack) {count : Nat}
    (hno : NoneMalformed (e.popped stem spec count).diagnostics) :
    entry ∈ (e.popped stem spec count).stack ∨
      ∃ position < count, (e.popped stem spec position).stack.head? = some entry := by
  induction count with
  | zero => exact .inl hmem
  | succ count ih =>
    rw [popped_succ] at hno ⊢
    rcases ih (hno.of_prefix (takeOperand_diagnostics _ _)) with hwaits | ⟨position, hlt, hfound⟩
    · cases hs : (e.popped stem spec count).stack with
      | nil =>
        rw [hs] at hwaits
        cases hwaits
      | cons top below =>
        rw [hs] at hwaits
        rcases List.mem_cons.mp hwaits with rfl | hwaits
        · exact .inr ⟨count, Nat.lt_succ_self count, by rw [hs]; rfl⟩
        · rw [takeOperand_cons hs] at hno ⊢
          exact .inl (mem_resolve hpart hwaits hno)
    · exact .inr ⟨position, hlt.trans (Nat.lt_succ_self count), hfound⟩

end Evaluation

/-- No name of an unmistakable stem can be taken by a literal without a report. -/
theorem Unmistakable.not_literalPart {stem : String} (h : Unmistakable stem) (n : Nat) :
    ¬ LiteralPart (syntheticName stem n) := by
  intro hpart
  generalize hname : syntheticName stem n = text at hpart
  cases hpart with
  | numeral hv =>
    rw [← hname, (referable_iff.mp h.toReferable n).2.1] at hv
    cases hv
  | opening =>
    have hopening := congrArg withoutOpening? hname
    rw [withoutOpening?_syntheticName] at hopening
    obtain ⟨rest, hrest, hempty⟩ := Option.map_eq_some_iff.mp (hopening.trans (by decide :
      withoutOpening? "(" = some ""))
    have hnil := congrArg String.toList hempty
    rw [toList_syntheticName] at hnil
    obtain rfl : rest = "" := String.toList_eq_nil_iff.mp (List.append_eq_nil_iff.mp hnil).1
    exact absurd (h.noOpening "" hrest).2 (by decide)
  | fused hopening hv =>
    rw [← hname, withoutOpening?_syntheticName] at hopening
    obtain ⟨rest, hrest, rfl⟩ := Option.map_eq_some_iff.mp hopening
    rw [forall_ofText?_syntheticName_iff.mpr (h.noOpening rest hrest) n] at hv
    cases hv

/-! ### Dependencies -/

section Dependencies

variable (catalog : Catalog) (stem : String) (words : List String)

/-- An operator that stands behind some words passes the result of a node on to its own node, as the
operand at a place counted from the last: the nodes are those of the plan, the result has its name
in the end, and its number is given back. -/
structure PassesOn (before : List String) (spec : OperatorSpec) (count node : Nat) (name : String) :
    Prop where
  /-- The result has this name. -/
  producer : ∃ step, (Plan.ofWords catalog stem words).finalSteps[node]? = some step ∧
    step.resultName = name
  /-- It is the result of an earlier node. -/
  earlier : node < (Evaluation.start.readWords catalog stem before).steps.length
  /-- The operator's node refers to this name. -/
  consumer : ∃ step, (Plan.ofWords catalog stem words).finalSteps[
      (Evaluation.start.readWords catalog stem before).steps.length]? = some step ∧
    step.operation = spec.operation ∧
    step.args[spec.arity - 1 - count]? = some (.reference name)
  /-- The number of the result can be used again. -/
  released : ((Evaluation.start.readWords catalog stem before).popped stem spec (count + 1)).counter
    = ((Evaluation.start.readWords catalog stem before).popped stem spec count).counter - 1

/-- No operator of a formula loses a result that it takes. -/
structure KeepsDependencies : Prop where
  /-- A result that an operator takes for an operand is passed on to its node. -/
  passed : ∀ before word after spec,
    words.takeWhile (· ≠ resultArrow) = before ++ word :: after →
    catalog.lookup word .either = some spec →
    ∀ count node name, count < spec.arity →
      ((Evaluation.start.readWords catalog stem before).popped stem spec count).stack.head? =
        some (.result node name) →
      PassesOn catalog stem words before spec count node name
  /-- A result that waits no more was taken for an operand, unless a vector literal is reported. -/
  taken : ∀ before word after spec,
    words.takeWhile (· ≠ resultArrow) = before ++ word :: after →
    catalog.lookup word .either = some spec →
    NoneMalformed ((Evaluation.start.readWords catalog stem before).left stem spec).diagnostics →
    ∀ node name, .result node name ∈ (Evaluation.start.readWords catalog stem before).stack →
      .result node name ∈ ((Evaluation.start.readWords catalog stem before).left stem spec).stack ∨
      ∃ count < spec.arity,
        ((Evaluation.start.readWords catalog stem before).popped stem spec count).stack.head? =
          some (.result node name)

end Dependencies

variable {catalog : Catalog} {stem : String} {words before after : List String} {word : String}
  {spec : OperatorSpec} {count node : Nat} {name : String}

/-- A result waits under a name made from the stem, which its node has. -/
theorem Evaluation.exists_step_of_result
    (h : .result node name ∈ (start.readWords catalog stem words).stack) :
    (∃ step, (start.readWords catalog stem words).steps[node]? = some step ∧
      step.resultName = name) ∧ ∃ number, name = syntheticName stem number := by
  obtain ⟨step, hstep, rfl⟩ := Option.map_eq_some_iff.mp
    ((registered_readWords words).names node name h)
  exact ⟨⟨step, hstep, rfl⟩, readWords_named words step (List.mem_of_getElem? hstep)⟩

/-- **When a result is passed on**: exactly if its name is read as a name. -/
theorem passesOn_iff (hsplit : words.takeWhile (· ≠ resultArrow) = before ++ word :: after)
    (hl : catalog.lookup word .either = some spec) (hcount : count < spec.arity)
    (hhead : ((Evaluation.start.readWords catalog stem before).popped stem spec count).stack.head? =
      some (.result node name)) :
    PassesOn catalog stem words before spec count node name ↔ GivesBack stem name := by
  obtain ⟨below, hstack, htaken, hsucc⟩ := Evaluation.popped_succ_of_head? hhead
  have htext : (StackEntry.result node name).text = name := rfl
  rw [htext] at htaken hsucc
  obtain ⟨⟨producer, hproducer, hname⟩, number, hnumber⟩ :=
    Evaluation.exists_step_of_result (Evaluation.mem_of_head?_popped hhead)
  have hstem : hasStem stem name = true := hnumber ▸ hasStem_syntheticName stem number
  have hplan : (Plan.ofWords catalog stem words).steps =
      (Evaluation.start.readWords catalog stem (before ++ word :: after)).steps := by
    rw [Plan.steps_ofWords, Plan.evaluationBefore, hsplit]
  have hstep := Evaluation.getElem?_readWords_steps stem before after hl
  rw [← hplan] at hstep
  have hoperand := Evaluation.getElem?_collectArgs stem
    (Evaluation.start.readWords catalog stem before) hcount
  rw [htaken] at hoperand
  -- the arrow may rename the operator's own node, but leaves its operands as they are
  obtain ⟨consumer, hconsumer, hoperation, hargs⟩ : ∃ step,
      (Plan.ofWords catalog stem words).finalSteps[
          (Evaluation.start.readWords catalog stem before).steps.length]? = some step ∧
        step.operation = spec.operation ∧ step.args =
          ((Evaluation.start.readWords catalog stem before).collectArgs stem spec.operation
            spec.arity).1 := by
    have hmap := congrArg (·[(Evaluation.start.readWords catalog stem before).steps.length]?)
      (Plan.map_finalSteps (f := fun step => (step.operation, step.args)) (fun _ _ => rfl)
        (Plan.ofWords catalog stem words))
    simp only [List.getElem?_map, hstep, Option.map_some] at hmap
    obtain ⟨step, hfinal, heq⟩ := Option.map_eq_some_iff.mp hmap
    exact ⟨step, hfinal, congrArg Prod.fst heq, congrArg Prod.snd heq⟩
  rw [← hargs] at hoperand
  constructor
  · rintro ⟨-, -, ⟨step, hfinal, -, harg⟩, -⟩
    obtain rfl : consumer = step := Option.some.inj (hconsumer.symm.trans hfinal)
    exact (Evaluation.resolve_fst_eq_reference_iff hstem _).mp
      (Option.some.inj (hoperand.symm.trans harg))
  · intro hgives
    have hearlier := (List.getElem?_eq_some_iff.mp hproducer).1
    have hlast := (List.getElem?_eq_some_iff.mp hstep).1
    refine ⟨⟨producer, ?_, hname⟩, hearlier, ⟨consumer, hconsumer, hoperation, ?_⟩, ?_⟩
    · rw [Plan.getElem?_finalSteps_of_lt (Nat.lt_of_le_of_lt hearlier hlast), hplan,
        Evaluation.readWords_append]
      obtain ⟨more, hmore⟩ := Evaluation.readWords_steps catalog stem
        (Evaluation.start.readWords catalog stem before) (word :: after)
      rw [← hmore, List.getElem?_append_left hearlier, hproducer]
    · rw [hoperand, (Evaluation.resolve_fst_eq_reference_iff hstem _).mpr hgives]
    · rw [hsucc, Evaluation.resolve_of_givesBack hgives]

/-- The names of an unmistakable stem lose no dependency of any formula. -/
theorem Unmistakable.keepsDependencies (h : Unmistakable stem) (catalog : Catalog)
    (words : List String) : KeepsDependencies catalog stem words where
  passed before word after spec hsplit hl count node name hcount hhead := by
    obtain ⟨-, number, rfl⟩ :=
      Evaluation.exists_step_of_result (Evaluation.mem_of_head?_popped hhead)
    exact (passesOn_iff hsplit hl hcount hhead).mpr (referable_iff.mp h.toReferable number)
  taken before word after spec _ _ hno node name hmem := by
    obtain ⟨-, number, rfl⟩ := Evaluation.exists_step_of_result hmem
    have hpart : ¬ LiteralPart (StackEntry.result node (syntheticName stem number)).text :=
      h.not_literalPart number
    exact Evaluation.mem_popped_or_found hpart hmem hno

/-! ### Formulas that lose a result -/

namespace Evaluation

/-- The words of the sine of one leave its result on the stack. -/
theorem readWords_sineOfOne (stem : String) (e : Evaluation) :
    e.readWords .builtin stem ["1", "sin"] =
      e.emit stem (.scalar .sine) [.scalar (.finite false 1065353216)] := by
  have hvalue : Single.ofText? "1" = some (.finite false 1065353216) := by decide
  have hone : Catalog.builtin.lookup "1" .either = none := Catalog.lookup_builtin_of_ofText? hvalue
  have hsine : Catalog.builtin.lookup "sin" .either =
      some ⟨["sin", "sine"], .scalar .sine, 1⟩ :=
    Catalog.lookup_builtin_of_mem (by decide) (by decide)
  have hargs : (e.push (.word "1")).collectArgs stem (.scalar .sine) 1 =
      ([.scalar (.finite false 1065353216)], e) := by
    have hresolve : e.resolve stem "1" = (.scalar (.finite false 1065353216), e) :=
      resolve_scalar (by decide) hvalue
    show (([(e.resolve stem "1").1], (e.resolve stem "1").2) : List Operand × Evaluation) = _
    rw [hresolve]
  rw [readWords_cons, consume_operand hone, readWords_cons, consume_operator hsine, hargs,
    readWords_nil]

/-- A result above two numbers is lost in a literal if its name begins with an opening parenthesis
and a numeral behind it. -/
theorem left_of_fused {e : Evaluation} {lower : List StackEntry} {rest : String} {value : Single}
    (stem : String) (spec : OperatorSpec) (hspec : spec.arity = 1)
    (hstack : e.stack = .word "3)" :: .word "2" :: .result node name :: lower)
    (hopening : withoutOpening? name = some rest) (hv : Single.ofText? rest = some value) :
    (e.left stem spec).stack = lower ∧ (e.left stem spec).diagnostics = e.diagnostics := by
  have hclosing : withoutClosing? "3)" = some "3" := by decide
  obtain ⟨two, htwo⟩ : ∃ two, Single.ofText? "2" = some two := ⟨.finite false 1073741824, by decide⟩
  obtain ⟨three, hthree⟩ : ∃ three, Single.ofText? "3" = some three :=
    ⟨.finite false 1077936128, by decide⟩
  have hvector : takeVector "3" (.word "2" :: .result node name :: lower) =
      (⟨value, two, three⟩, [], lower) := by
    simp [takeVector, takeLast, takeFirst, takeTop, component, StackEntry.text, hopening, hv, htwo,
      hthree]
  have hleft : e.left stem spec = (({ e with stack := .word "2" :: .result node name :: lower } :
      Evaluation).resolve stem "3)").2 := by
    rw [← popped_arity, hspec, popped_succ]
    exact congrArg Prod.snd (takeOperand_cons hstack _)
  rw [hleft, resolve_vector hclosing, hvector]
  exact ⟨rfl, List.append_nil _⟩

end Evaluation

/-- If the sine of a result keeps its dependency, the result's name is read as a name. -/
theorem givesBack_of_sine (before : List String) {lower : List StackEntry}
    (h : KeepsDependencies .builtin stem (before ++ ["sin"])) (harrow : resultArrow ∉ before)
    (hstack : (Evaluation.start.readWords .builtin stem before).stack =
      .result node name :: lower) : GivesBack stem name := by
  have hsplit : (before ++ ["sin"]).takeWhile (· ≠ resultArrow) = before ++ "sin" :: [] := by
    rw [Plan.takeWhile_of_notMem harrow]
    rfl
  have hsine : Catalog.builtin.lookup "sin" .either = some ⟨["sin", "sine"], .scalar .sine, 1⟩ :=
    Catalog.lookup_builtin_of_mem (by decide) (by decide)
  have hhead : ((Evaluation.start.readWords .builtin stem before).popped stem
      ⟨["sin", "sine"], .scalar .sine, 1⟩ 0).stack.head? = some (.result node name) := by
    show (Evaluation.start.readWords .builtin stem before).stack.head? = _
    rw [hstack]
    rfl
  exact (passesOn_iff hsplit hsine Nat.zero_lt_one hhead).mp
    (h.passed before "sin" [] _ hsplit hsine 0 node name Nat.zero_lt_one hhead)

/-- If a vector literal does not lose a result, no numeral is behind a parenthesis that opens its
name. -/
theorem ofText?_eq_none_of_literal (before : List String) {lower : List StackEntry} {rest : String}
    (h : KeepsDependencies .builtin stem (before ++ ["2", "3)", "vsin"]))
    (harrow : resultArrow ∉ before)
    (hstack : (Evaluation.start.readWords .builtin stem before).stack =
      .result node name :: lower)
    (hlower : .result node name ∉ lower)
    (hraised : (Evaluation.start.readWords .builtin stem before).diagnostics = [])
    (hopening : withoutOpening? name = some rest) : Single.ofText? rest = none := by
  have hsplit : (before ++ ["2", "3)", "vsin"]).takeWhile (· ≠ resultArrow) =
      (before ++ ["2", "3)"]) ++ "vsin" :: [] := by
    rw [Plan.takeWhile_of_notMem harrow, List.append_assoc]
    rfl
  have hsine : Catalog.builtin.lookup "vsin" .either =
      some ⟨["vsin", "vsine"], .vector .sine, 1⟩ :=
    Catalog.lookup_builtin_of_mem (by decide) (by decide)
  obtain ⟨hwaiting, hquiet⟩ :
      (Evaluation.start.readWords .builtin stem (before ++ ["2", "3)"])).stack =
          .word "3)" :: .word "2" :: .result node name :: lower ∧
        (Evaluation.start.readWords .builtin stem (before ++ ["2", "3)"])).diagnostics = [] := by
    have htwo : Single.ofText? "2" = some (.finite false 1073741824) := by decide
    have hwords : ∀ word ∈ ["2", "3)"], Catalog.builtin.lookup word .either = none := by
      rw [List.forall_mem_cons, List.forall_mem_singleton]
      exact ⟨Catalog.lookup_builtin_of_ofText? htwo, Catalog.lookup_builtin_of_closing (by decide)⟩
    rw [Evaluation.readWords_append, Evaluation.readWords_operands hwords, hstack]
    exact ⟨rfl, hraised⟩
  cases hv : Single.ofText? rest with
  | none => rfl
  | some value =>
    obtain ⟨hleft, hreports⟩ := Evaluation.left_of_fused stem ⟨["vsin", "vsine"], .vector .sine, 1⟩
      rfl hwaiting hopening hv
    obtain hmem | ⟨count, hlt, hhead⟩ := h.taken _ "vsin" [] _ hsplit hsine
      (noneMalformed_of_eq_nil (hreports.trans hquiet)) node name (by simp [hwaiting])
    · rw [hleft] at hmem
      exact absurd hmem hlower
    · obtain rfl : count = 0 := Nat.lt_one_iff.mp hlt
      have htop : (Evaluation.start.readWords .builtin stem (before ++ ["2", "3)"])).stack.head? =
          some (.result node name) := hhead
      rw [hwaiting] at htop
      cases htop

/-- The results of two sines that wait above each other. -/
theorem Evaluation.readWords_sines (stem : String) :
    ((start.readWords .builtin stem ["1", "sin"]).stack = [.result 0 (syntheticName stem 0)] ∧
      (start.readWords .builtin stem ["1", "sin"]).diagnostics = []) ∧
    (start.readWords .builtin stem ["1", "sin", "1", "sin"]).stack =
        [.result 1 (syntheticName stem 1), .result 0 (syntheticName stem 0)] ∧
      (start.readWords .builtin stem ["1", "sin", "1", "sin"]).diagnostics = [] := by
  have htwice : start.readWords .builtin stem ["1", "sin", "1", "sin"] =
      (start.readWords .builtin stem ["1", "sin"]).readWords .builtin stem ["1", "sin"] := rfl
  rw [htwice, readWords_sineOfOne, readWords_sineOfOne]
  exact ⟨⟨rfl, rfl⟩, rfl, rfl⟩

/-- A stem that loses no dependency of any formula is unmistakable. -/
theorem unmistakable_of_keepsDependencies
    (h : ∀ formula, KeepsDependencies .builtin stem (tokenize formula)) : Unmistakable stem := by
  have hkeeps {formula : String} {words : List String} (hwords : tokenize formula = words) :
      KeepsDependencies .builtin stem words := hwords ▸ h formula
  obtain ⟨⟨hfirst, hquiet⟩, hsecond, hquiet'⟩ := Evaluation.readWords_sines stem
  have hzero : GivesBack stem (syntheticName stem 0) :=
    givesBack_of_sine ["1", "sin"]
      (hkeeps (by decide +kernel : tokenize "1 sin sin" = _)) (by decide) hfirst
  have hone : GivesBack stem (syntheticName stem 1) :=
    givesBack_of_sine ["1", "sin", "1", "sin"]
      (hkeeps (by decide +kernel : tokenize "1 sin 1 sin sin" = _)) (by decide) hsecond
  refine ⟨⟨hzero.1, hzero.2.1, hone.2.1⟩, fun rest hrest => ⟨?_, ?_⟩⟩
  · exact ofText?_eq_none_of_literal ["1", "sin"]
      (hkeeps (by decide +kernel : tokenize "1 sin 2 3) vsin" = _)) (by decide) hfirst (by simp)
      hquiet hrest
  · have hopening : withoutOpening? (syntheticName stem 1) = some (rest ++ "1") := by
      rw [withoutOpening?_syntheticName, hrest]
      rfl
    exact ofText?_eq_none_of_literal ["1", "sin", "1", "sin"]
      (hkeeps (by decide +kernel : tokenize "1 sin 1 sin 2 3) vsin" = _)) (by decide) hsecond
      (by simp) hquiet' hopening

/-- **Which stems keep the results of a formula.** The names of a valid stem are single words
exactly if no grouping bracket stands in it. All of them are read as names, and give their numbers
back, when operators take them exactly if the stem is referable. All dependencies of all formulas
are kept, under every catalog, exactly if it is unmistakable. -/
theorem names_kept_iff (hvalid : Settings.validStem stem = true) :
    ((∀ n, tokenize (syntheticName stem n) = [syntheticName stem n]) ↔
        ∀ c ∈ stem.toList, c ∉ groupingMarkers) ∧
      ((∀ n e, Evaluation.resolve stem e (syntheticName stem n) =
          (.reference (syntheticName stem n), { e with counter := e.counter - 1 })) ↔
        Referable stem) ∧
      ((∀ catalog formula, KeepsDependencies catalog stem (tokenize formula)) ↔
        Unmistakable stem) := by
  refine ⟨?_, ?_, ?_⟩
  · simp only [tokenize_eq_singleton_iff, isToken_syntheticName_iff hvalid, forall_const]
  · rw [referable_iff]
    refine forall_congr' fun n => ⟨fun h => ?_, fun h e => Evaluation.resolve_of_givesBack h⟩
    exact (Evaluation.resolve_fst_eq_reference_iff (hasStem_syntheticName stem n) .start).mp
      (congrArg Prod.fst (h .start))
  · exact ⟨fun h => unmistakable_of_keepsDependencies (h .builtin),
      fun h catalog formula => h.keepsDependencies catalog (tokenize formula)⟩

/-- The default stem keeps them all. -/
theorem names_kept_default :
    (∀ n, tokenize (syntheticName "mf_temp" n) = [syntheticName "mf_temp" n]) ∧
      ∀ catalog formula, KeepsDependencies catalog "mf_temp" (tokenize formula) := by
  have hvalid : Settings.validStem "mf_temp" = true := by decide
  have hnone : withoutOpening? "mf_temp" = none := by decide
  have hreferable : Referable "mf_temp" :=
    ⟨by decide, Single.ofText?_eq_none_of_mem (c := '_') (by decide) (by decide),
      Single.ofText?_eq_none_of_mem (c := '_') (by decide) (by decide)⟩
  have hstem : Unmistakable "mf_temp" := by
    refine ⟨hreferable, fun rest hrest => ?_⟩
    rw [hnone] at hrest
    cases hrest
  have hmarkers : "mf_temp".toList.all (· ∉ groupingMarkers) = true := by decide
  exact ⟨(names_kept_iff hvalid).1.mpr fun c hc =>
      of_decide_eq_true (List.all_eq_true.mp hmarkers c hc),
    (names_kept_iff hvalid).2.2.mpr hstem⟩

/-- A number is a valid stem, but its first name is read as the number, so that the second sine does
not get the result of the first. -/
theorem not_keepsDependencies_of_numeral :
    Settings.isValid ⟨"1 sin sin", "7", true⟩ = true ∧
      ¬ KeepsDependencies .builtin "7" (tokenize "1 sin sin") := by
  refine ⟨by decide, fun h => ?_⟩
  have hwords : tokenize "1 sin sin" = ["1", "sin"] ++ ["sin"] := by decide +kernel
  rw [hwords] at h
  have hgives : GivesBack "7" "7" :=
    givesBack_of_sine ["1", "sin"] h (by decide) (Evaluation.readWords_sines "7").1.1
  exact absurd hgives.2.1 (by decide)

end FormulaChain
