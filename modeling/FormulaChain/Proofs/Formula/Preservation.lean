import FormulaChain.Proofs.Formula.Numbering
import FormulaChain.Proofs.Sink.Recording
import FormulaChain.Catalog.Builtin
import Mathlib.Data.List.Forall2
import Mathlib.Logic.Function.Basic

/-!
# Compilation preserves meaning

A formula in postfix order has a meaning without any node: an evaluator keeps values on its stack
and applies each operator to the values it takes. The nodes of a compilation mean something too:
run in order, each reads its operands from named attributes and writes its result under its name.

The two agree for every meaning of literals and operations (`values_compile`): the values that the
nodes compute are those that the evaluator pushes. Names of results are used again and again, so
this hinges on no node writing over a result that is still to be read.

## The model

`Meaning D` interprets literals and operations in a domain of values. `Meaning.valuesOf` is the
evaluator of words; what waits on its stack is a word or a value (`Pending`). A value that is met
where a vector literal should have a component is no numeral and counts as zero. `Meaning.run` runs
operators over an environment that maps the names of attributes to values.
-/

namespace FormulaChain

universe u

variable {D : Type u}

/-- A meaning of literals and operations. -/
structure Meaning (D : Type u) where
  /-- The value of a literal number. -/
  scalar : Single → D
  /-- The value of a literal vector. -/
  vector : Triple → D
  /-- What an operation does with its operands. -/
  operation : Operation → List D → D

/-! ### The evaluator of words -/

/-- What waits on the stack of the evaluator. -/
inductive Pending (D : Type u) where
  /-- A word as it stands in the formula. -/
  | word (text : String)
  /-- The value of an operator. -/
  | value (value : D)

namespace Pending

/-- The number that something pending is read as inside a vector literal. -/
def component : Option (Pending D) → Single
  | some (.word text) => (Single.ofText? text).getD .zero
  | _ => .zero

/-- Drops an opening parenthesis that stands alone on top. -/
def dropOpening : List (Pending D) → List (Pending D)
  | .word text :: below => if text = "(" then below else .word text :: below
  | stack => stack

/-- The first component of a vector literal, and the stack below the literal. -/
def takeFirst : List (Pending D) → Single × List (Pending D)
  | [] => (.zero, [])
  | .value _ :: below => (.zero, dropOpening below)
  | .word text :: below =>
    match withoutOpening? text with
    | some fused => (component (some (.word fused : Pending D)), below)
    | none => (component (some (.word text : Pending D)), dropOpening below)

/-- The last component of a vector literal whose closing word has this text before its
parenthesis. -/
def takeLast (fused : String) (stack : List (Pending D)) : Single × List (Pending D) :=
  if fused = "" then (component stack.head?, stack.tail)
  else (component (some (.word fused : Pending D)), stack)

/-- A vector literal, and the stack below it. -/
def takeVector (fused : String) (stack : List (Pending D)) : Triple × List (Pending D) :=
  let (z, stack) := takeLast fused stack
  let y := component stack.head?
  let (x, stack) := takeFirst stack.tail
  (⟨x, y, z⟩, stack)

end Pending

/-- The stack of the evaluator and the values of the operators read so far. -/
structure Valuation (D : Type u) where
  /-- Words and values that wait, the latest first. -/
  stack : List (Pending D)
  /-- The values of the operators, in the order of the formula. -/
  values : List D

namespace Meaning

/-- The value of a word that is taken from the stack. -/
def valueOfWord (m : Meaning D) (env : String → D) (text : String) (stack : List (Pending D)) :
    D × List (Pending D) :=
  match withoutClosing? text with
  | some fused =>
    let (literal, stack) := Pending.takeVector fused stack
    (m.vector literal, stack)
  | none =>
    match Single.ofText? text with
    | some number => (m.scalar number, stack)
    | none => (env text, stack)

/-- The value on top of the stack; where nothing waits, that of the missing operand. -/
def takeValue (m : Meaning D) (env : String → D) : List (Pending D) → D × List (Pending D)
  | [] => (env "no_arg", [])
  | .value v :: below => (v, below)
  | .word text :: below => m.valueOfWord env text below

/-- Values from the top of the stack, the topmost last. -/
def takeValues (m : Meaning D) (env : String → D) :
    Nat → List (Pending D) → List D × List (Pending D)
  | 0, stack => ([], stack)
  | count + 1, stack =>
    let (last, stack) := m.takeValue env stack
    let (others, stack) := m.takeValues env count stack
    (others ++ [last], stack)

/-- Evaluates one word. -/
def evaluate (m : Meaning D) (env : String → D) (catalog : Catalog) (v : Valuation D)
    (word : String) : Valuation D :=
  match catalog.lookup word .either with
  | some spec =>
    let (operands, stack) := m.takeValues env spec.arity v.stack
    let result := m.operation spec.operation operands
    ⟨.value result :: stack, v.values ++ [result]⟩
  | none => { v with stack := .word word :: v.stack }

/-- The values of the operators among some words. -/
def valuesOf (m : Meaning D) (env : String → D) (catalog : Catalog) (words : List String) :
    List D :=
  (words.foldl (m.evaluate env catalog) ⟨[], []⟩).values

/-! ### Running nodes -/

/-- The value of an operand. -/
def denote (m : Meaning D) (env : String → D) : Operand → D
  | .scalar number => m.scalar number
  | .vector literal => m.vector literal
  | .reference name => env name

/-- The value that an operator computes. -/
def perform (m : Meaning D) (env : String → D) (step : Step) : D :=
  m.operation step.operation (step.args.map (m.denote env))

/-- The environment after operators have written their results. -/
def after (m : Meaning D) (env : String → D) : List Step → String → D
  | [] => env
  | step :: steps => m.after (Function.update env step.resultName (m.perform env step)) steps

/-- The values that operators compute, run in order. -/
def run (m : Meaning D) (env : String → D) : List Step → List D
  | [] => []
  | step :: steps =>
    m.perform env step :: m.run (Function.update env step.resultName (m.perform env step)) steps

theorem after_concat (m : Meaning D) (env : String → D) (steps : List Step) (step : Step) :
    m.after env (steps ++ [step]) =
      Function.update (m.after env steps) step.resultName (m.perform (m.after env steps) step) := by
  induction steps generalizing env with
  | nil => rfl
  | cons first steps ih => exact ih _

theorem run_concat (m : Meaning D) (env : String → D) (steps : List Step) (step : Step) :
    m.run env (steps ++ [step]) = m.run env steps ++ [m.perform (m.after env steps) step] := by
  induction steps generalizing env with
  | nil => rfl
  | cons first steps ih => exact congrArg (_ :: ·) (ih _)

/-- The name of the last result does not matter to the values. -/
theorem run_renameLast (m : Meaning D) (env : String → D) (steps : List Step) (name : String) :
    m.run env (Step.renameLast steps name) = m.run env steps := by
  rcases List.eq_nil_or_concat steps with rfl | ⟨front, last, rfl⟩
  · rfl
  · rw [List.concat_eq_append, Step.renameLast_concat, run_concat, run_concat]
    rfl

theorem run_finalSteps (m : Meaning D) (env : String → D) (plan : Plan) :
    m.run env plan.finalSteps = m.run env plan.steps := by
  unfold Plan.finalSteps
  cases plan.finalName with
  | none => rfl
  | some name => exact run_renameLast m env plan.steps name

end Meaning

/-! ### Stacks that stand for one another -/

/-- What waits in a compilation stands for what waits in an evaluation: a word for itself if it does
not begin with the stem, a result for the value that the environment has under its name. -/
inductive StandsFor (stem : String) (env : String → D) : StackEntry → Pending D → Prop where
  /-- A word. -/
  | word {text : String} : hasStem stem text = false →
      StandsFor stem env (.word text) (.word text)
  /-- A result. -/
  | result {node number : Nat} {value : D} : env (syntheticName stem number) = value →
      StandsFor stem env (.result node (syntheticName stem number)) (.value value)

/-- Each entry of a stack stands for its counterpart. -/
abbrev StacksAgree (stem : String) (env : String → D) (stack : List StackEntry)
    (pending : List (Pending D)) : Prop :=
  List.Forall₂ (StandsFor stem env) stack pending

section Agreement

variable {stem : String} {env : String → D} {stack : List StackEntry} {pending : List (Pending D)}

theorem component_fst (text : String) :
    (component (some text)).1 = (Single.ofText? text).getD .zero := by
  unfold component
  cases h : Single.ofText? text <;> simp [h]

theorem component_of_standsFor {entry : StackEntry} {p : Pending D} (hs : PlainStem stem)
    (h : StandsFor stem env entry p) :
    (component (some entry.text)).1 = Pending.component (some p) := by
  cases h with
  | word _ => exact component_fst _
  | result _ => exact hs.component_fst _

theorem takeTop_agree (hs : PlainStem stem) (h : StacksAgree stem env stack pending) :
    (component (takeTop stack).1).1 = Pending.component pending.head? ∧
      StacksAgree stem env (takeTop stack).2 pending.tail := by
  cases h with
  | nil => exact ⟨rfl, .nil⟩
  | cons hentry hbelow => exact ⟨component_of_standsFor hs hentry, hbelow⟩

theorem takeOpening_agree (hs : PlainStem stem) (h : StacksAgree stem env stack pending) :
    StacksAgree stem env (takeOpening stack).2 (Pending.dropOpening pending) := by
  cases h with
  | nil => exact .nil
  | cons hentry hbelow =>
    cases hentry with
    | @word text hw =>
      by_cases ht : text = "("
      · simpa [takeOpening, Pending.dropOpening, StackEntry.text, ht] using hbelow
      · simpa [takeOpening, Pending.dropOpening, StackEntry.text, ht] using ⟨.word hw, hbelow⟩
    | @result node number value hv =>
      simpa [takeOpening, Pending.dropOpening, StackEntry.text, hs.ne_opening number] using
        ⟨.result hv, hbelow⟩

theorem takeFirst_agree (hs : PlainStem stem) (h : StacksAgree stem env stack pending) :
    (takeFirst stack).1 = (Pending.takeFirst pending).1 ∧
      StacksAgree stem env (takeFirst stack).2.2 (Pending.takeFirst pending).2 := by
  cases h with
  | nil => exact ⟨rfl, .nil⟩
  | cons hentry hbelow =>
    cases hentry with
    | @word text hw =>
      simp only [takeFirst, takeTop, StackEntry.text, Pending.takeFirst]
      cases withoutOpening? text with
      | some fused => exact ⟨component_fst fused, hbelow⟩
      | none => exact ⟨component_fst text, takeOpening_agree hs hbelow⟩
    | @result node number value hv =>
      have hno : withoutOpening? (syntheticName stem number) = none :=
        withoutOpening?_eq_none (hs.opening_notMem number)
      simp only [takeFirst, takeTop, StackEntry.text, Pending.takeFirst, hno]
      exact ⟨hs.component_fst number, takeOpening_agree hs hbelow⟩

theorem takeLast_agree (hs : PlainStem stem) (fused : String)
    (h : StacksAgree stem env stack pending) :
    (takeLast fused stack).1 = (Pending.takeLast fused pending).1 ∧
      StacksAgree stem env (takeLast fused stack).2.2 (Pending.takeLast fused pending).2 := by
  by_cases hf : fused = ""
  · simp only [takeLast, Pending.takeLast, if_pos hf]
    exact takeTop_agree hs h
  · simp only [takeLast, Pending.takeLast, if_neg hf]
    exact ⟨component_fst fused, h⟩

/-- A vector literal is the same on both stacks and leaves stacks that agree. -/
theorem takeVector_agree (hs : PlainStem stem) (fused : String)
    (h : StacksAgree stem env stack pending) :
    (takeVector fused stack).1 = (Pending.takeVector fused pending).1 ∧
      StacksAgree stem env (takeVector fused stack).2.2 (Pending.takeVector fused pending).2 := by
  obtain ⟨hz, hlast⟩ := takeLast_agree hs fused h
  obtain ⟨hy, htop⟩ := takeTop_agree hs hlast
  obtain ⟨hx, hfirst⟩ := takeFirst_agree hs htop
  simp only [takeVector, Pending.takeVector]
  exact ⟨by rw [hz, hy, hx], hfirst⟩

/-- Writing a result under a number above all that wait changes nothing that waits. -/
theorem StacksAgree.update {bound number : Nat} (h : StacksAgree stem env stack pending)
    (hn : Numbered stem bound stack) (hb : bound ≤ number) (value : D) :
    StacksAgree stem (Function.update env (syntheticName stem number) value) stack pending := by
  induction h generalizing bound with
  | nil => exact .nil
  | @cons entry p below pending hentry hbelow ih =>
    refine .cons ?_ (ih hn.tail hb)
    cases hentry with
    | word hw => exact .word hw
    | @result node n v hv =>
      obtain ⟨k, hk, hname⟩ := hn.exists_number List.mem_cons_self
      have hne : syntheticName stem n ≠ syntheticName stem number := by
        rw [hname]
        exact fun heq => (hk.trans_le hb).ne (syntheticName_injective stem heq)
      exact .result ((Function.update_of_ne hne _ _).trans hv)

end Agreement

/-! ### The simulation -/

/-- An environment of results over one of outside attributes: what the nodes have written so far
has not changed a name without the stem. -/
def Extends (stem : String) (now env : String → D) : Prop :=
  ∀ text, hasStem stem text = false → now text = env text

section Simulation

variable {m : Meaning D} {stem : String} {now env : String → D} {pending : List (Pending D)}
  {e : Evaluation} {operation : Operation} {arity : Nat}

open Evaluation

/-- An operand that an operator takes denotes the value that the evaluator takes. -/
theorem takeOperand_agree (hs : PlainStem stem) (hmissing : hasStem stem "no_arg" = false)
    (hext : Extends stem now env) (h : StacksAgree stem now e.stack pending)
    (taken : List Operand) :
    m.denote now (e.takeOperand stem operation arity taken).1 = (m.takeValue env pending).1 ∧
      StacksAgree stem now (e.takeOperand stem operation arity taken).2.stack
        (m.takeValue env pending).2 := by
  cases hstack : e.stack with
  | nil =>
    rw [hstack] at h
    cases h
    rw [takeOperand_nil hstack]
    exact ⟨hext _ hmissing, by rw [report, hstack]; exact .nil⟩
  | cons entry below =>
    rw [hstack] at h
    rw [takeOperand_cons hstack]
    cases h with
    | cons hentry hbelow =>
      cases hentry with
      | @word text hw =>
        simp only [StackEntry.text, Meaning.takeValue, Meaning.valueOfWord]
        cases hc : withoutClosing? text with
        | some fused =>
          obtain ⟨hvalue, hrest⟩ := takeVector_agree hs fused hbelow
          rw [resolve_vector hc]
          exact ⟨congrArg m.vector hvalue, hrest⟩
        | none =>
          cases hv : Single.ofText? text with
          | some number =>
            rw [resolve_scalar hc hv]
            exact ⟨rfl, hbelow⟩
          | none =>
            rw [resolve_name hc hv hw]
            exact ⟨hext _ hw, hbelow⟩
      | @result node number value hvalue =>
        simp only [StackEntry.text]
        rw [resolve_of_givesBack (hs.givesBack number)]
        exact ⟨hvalue, hbelow⟩

/-- The operands that an operator takes denote the values that the evaluator takes. -/
theorem takeOperands_agree (hs : PlainStem stem) (hmissing : hasStem stem "no_arg" = false)
    (hext : Extends stem now env) (count : Nat) (taken : List Operand) (e : Evaluation)
    (pending : List (Pending D)) (h : StacksAgree stem now e.stack pending) :
    (e.takeOperands stem operation arity count taken).1.map (m.denote now) =
        taken.map (m.denote now) ++ (m.takeValues env count pending).1.reverse ∧
      StacksAgree stem now (e.takeOperands stem operation arity count taken).2.stack
        (m.takeValues env count pending).2 := by
  induction count generalizing taken e pending with
  | zero => exact ⟨by simp [takeOperands, Meaning.takeValues], h⟩
  | succ count ih =>
    obtain ⟨hvalue, hrest⟩ := takeOperand_agree (m := m) hs hmissing hext h taken
    obtain ⟨hvalues, hstack⟩ := ih _ _ _ hrest
    refine ⟨hvalues.trans ?_, hstack⟩
    rw [List.map_append, List.append_assoc, Meaning.takeValues, List.reverse_append]
    exact congrArg (fun last => taken.map (m.denote now) ++ ([last] ++ _)) hvalue

theorem collectArgs_agree (operation : Operation) (arity : Nat) (hs : PlainStem stem)
    (hmissing : hasStem stem "no_arg" = false) (hext : Extends stem now env)
    (h : StacksAgree stem now e.stack pending) :
    (e.collectArgs stem operation arity).1.map (m.denote now) =
        (m.takeValues env arity pending).1 ∧
      StacksAgree stem now (e.collectArgs stem operation arity).2.stack
        (m.takeValues env arity pending).2 := by
  obtain ⟨hvalues, hstack⟩ := takeOperands_agree (m := m) hs hmissing hext arity [] e pending h
  refine ⟨?_, hstack⟩
  simp only [collectArgs, List.map_reverse]
  rw [hvalues]
  simp

/-- The compilation and the evaluation of the same words stand for one another: what waits agrees
under the results written so far, and the nodes compute the values pushed. -/
structure Simulates (m : Meaning D) (stem : String) (env : String → D) (e : Evaluation)
    (v : Valuation D) : Prop where
  /-- The results that wait are told apart by their numbers. -/
  orderly : Orderly stem e
  /-- No outside attribute has been written over. -/
  outside : Extends stem (m.after env e.steps) env
  /-- The stacks agree. -/
  agree : StacksAgree stem (m.after env e.steps) e.stack v.stack
  /-- The values agree. -/
  values : m.run env e.steps = v.values

/-- An operator keeps the simulation. -/
theorem simulates_operator {catalog : Catalog} {v : Valuation D} {word : String}
    {spec : OperatorSpec} (hs : PlainStem stem) (hmissing : hasStem stem "no_arg" = false)
    (h : Simulates m stem env e v) (hl : catalog.lookup word .either = some spec) :
    Simulates m stem env (e.consume catalog stem word) (m.evaluate env catalog v word) := by
  obtain ⟨hargs, hrest⟩ := collectArgs_agree (m := m) spec.operation spec.arity hs hmissing
    h.outside h.agree
  have horderly : Orderly stem (e.collectArgs stem spec.operation spec.arity).2 :=
    collectArgs_orderly h.orderly
  have hsteps : (e.collectArgs stem spec.operation spec.arity).2.steps = e.steps :=
    collectArgs_steps e
  rw [consume_operator hl]
  simp only [Meaning.evaluate, hl]
  generalize (e.collectArgs stem spec.operation spec.arity).2 = e' at hrest horderly hsteps ⊢
  generalize (e.collectArgs stem spec.operation spec.arity).1 = args at hargs ⊢
  -- the value of the new node is the value pushed
  have hvalue :
      m.perform (m.after env e.steps) ⟨spec.operation, args, syntheticName stem e'.counter⟩ =
        m.operation spec.operation (m.takeValues env spec.arity v.stack).1 := by
    rw [← hargs]
    rfl
  constructor
  · exact emit_orderly horderly args
  · intro text ht
    simp only [emit, hsteps]
    rw [Meaning.after_concat, Function.update_of_ne (ne_syntheticName_of_not_hasStem ht _)]
    exact h.outside text ht
  · simp only [emit, hsteps]
    rw [Meaning.after_concat, hvalue]
    exact .cons (.result (Function.update_self _ _ _))
      (hrest.update horderly.numbered le_rfl _)
  · simp only [emit, hsteps]
    rw [Meaning.run_concat, hvalue, h.values]

/-- A word keeps the simulation. -/
theorem simulates_consume {catalog : Catalog} {v : Valuation D} {word : String}
    (hs : PlainStem stem) (hmissing : hasStem stem "no_arg" = false)
    (hw : hasStem stem word = false) (h : Simulates m stem env e v) :
    Simulates m stem env (e.consume catalog stem word) (m.evaluate env catalog v word) := by
  cases hl : catalog.lookup word .either with
  | some spec => exact simulates_operator hs hmissing h hl
  | none =>
    rw [consume_operand hl]
    simp only [Meaning.evaluate, hl]
    exact ⟨push_orderly h.orderly (not_givesBack_of_not_hasStem hw), h.outside,
      .cons (.word hw) h.agree, h.values⟩

/-- Words keep the simulation. -/
theorem simulates_readWords {catalog : Catalog} {words : List String} {v : Valuation D}
    (hs : PlainStem stem) (hmissing : hasStem stem "no_arg" = false)
    (hw : ∀ word ∈ words, hasStem stem word = false) (h : Simulates m stem env e v) :
    Simulates m stem env (e.readWords catalog stem words)
      (words.foldl (m.evaluate env catalog) v) := by
  induction words generalizing e v with
  | nil => exact h
  | cons word words ih =>
    rw [List.forall_mem_cons] at hw
    exact ih hw.2 (simulates_consume hs hmissing hw.1 h)

end Simulation

/-- **Compilation preserves meaning**: whatever the sink, the values that the nodes compute, run in
order over the outside attributes, are the values that the evaluator of words pushes for the
operators before the first result arrow, one for one. The stem is plain, and no word of the formula
and not the name of the missing operand begins with it. A sink that records gives such nodes for
every formula. -/
theorem values_compile (catalog : Catalog) (settings : Settings)
    (hvalid : settings.isValid = true) (hplain : PlainStem settings.tempName)
    (hmissing : hasStem settings.tempName "no_arg" = false)
    (hwords : ∀ word ∈ tokenize settings.formula, hasStem settings.tempName word = false) :
    (∀ r, ∃ out, (Recording.sink.compile catalog settings r).1 = .ok out) ∧
      ∀ {σ N F E : Type} (sink : GraphSink σ N F E) (state : σ) (out : CompileOutput N F),
        (sink.compile catalog settings state).1 = .ok out →
          ∀ (m : Meaning D) (env : String → D),
            m.run env (out.nodes.map EmittedNode.step) =
              m.valuesOf env catalog
                ((tokenize settings.formula).takeWhile (· ≠ resultArrow)) := by
  refine ⟨Recording.exists_compile hvalid, fun sink state out hout m env => ?_⟩
  obtain ⟨-, -, hnodes⟩ := GraphSink.compile_nodes hout
  have hstart : Simulates m settings.tempName env Evaluation.start ⟨[], []⟩ :=
    ⟨Evaluation.orderly_start, fun _ _ => rfl, .nil, rfl⟩
  rw [hnodes, Meaning.run_finalSteps, Plan.ofFormula, Plan.steps_ofWords]
  refine (simulates_readWords hplain hmissing (fun word hmem => hwords word ?_) hstart).values
  exact (List.takeWhile_sublist _).subset hmem

/-- A literal swallows the second of two results without giving its number back; the sum still reads
the first. -/
theorem values_compile_swallowed :
    ∃ out, (Recording.sink.compile .builtin ⟨"1 sin 2 sin 3 4) +", "mf_temp", true⟩ .empty).1 =
        .ok out ∧
      (⟨fun _ => 1, fun _ => 3, fun _ args => args.foldr (· + ·) 1⟩ : Meaning Nat).run (fun _ => 10)
        (out.nodes.map EmittedNode.step) = [2, 2, 6] := by
  have hplain : PlainStem "mf_temp" :=
    plainStem_of_mem (c := '_') (by decide) (by decide) (by decide) (by decide)
  obtain ⟨hout, hvalues⟩ := values_compile (D := Nat) .builtin
    ⟨"1 sin 2 sin 3 4) +", "mf_temp", true⟩ (by decide) hplain (by decide) (by decide +kernel)
  obtain ⟨out, hout⟩ := hout .empty
  refine ⟨out, hout, (hvalues Recording.sink .empty out hout _ _).trans ?_⟩
  decide +kernel

end FormulaChain
