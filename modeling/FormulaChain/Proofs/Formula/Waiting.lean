import FormulaChain.Proofs.Formula.Numbering
import FormulaChain.Proofs.Sink.Build

/-!
# The names of waiting results

The results on the stack wait under the names of their nodes (`Registered`), so that two of them
have the same name only if a name was given while a result of this name was waiting: by an operator,
whose number is still in use, or by the result arrow, which gives the last result any name at all
(`keepsApart_iff_namesFresh`).
-/

namespace FormulaChain

/-- The names of the results that wait on a stack, the latest first. -/
def waitingNames (stack : List StackEntry) : List String :=
  stack.filterMap fun
    | .word _ => none
    | .result _ name => some name

/-- The names that some operators have given to the results that wait on a stack. -/
def namesOf (steps : List Step) (stack : List StackEntry) : List String :=
  stack.filterMap fun
    | .word _ => none
    | .result node _ => steps[node]?.map (·.resultName)

section Stacks

variable {stack lower : List StackEntry} {text name : String} {node : Nat}

@[simp]
theorem waitingNames_word : waitingNames (.word text :: stack) = waitingNames stack := rfl

@[simp]
theorem waitingNames_result :
    waitingNames (.result node name :: stack) = name :: waitingNames stack := rfl

@[simp]
theorem waitingNames_append :
    waitingNames (stack ++ lower) = waitingNames stack ++ waitingNames lower :=
  List.filterMap_append

@[simp]
theorem waitingNames_words (texts : List String) : waitingNames (texts.map .word) = [] := by
  rw [waitingNames, List.filterMap_map]
  exact List.filterMap_none texts

@[simp]
theorem namesOf_words (steps : List Step) (texts : List String) :
    namesOf steps (texts.map .word) = [] := by
  rw [namesOf, List.filterMap_map]
  exact List.filterMap_none texts

theorem namesOf_append (steps : List Step) :
    namesOf steps (stack ++ lower) = namesOf steps stack ++ namesOf steps lower :=
  List.filterMap_append

theorem namesOf_result {steps : List Step} {step : Step} (h : steps[node]? = some step) :
    namesOf steps (.result node name :: stack) = step.resultName :: namesOf steps stack := by
  simp [namesOf, h]

theorem mem_waitingNames : name ∈ waitingNames stack ↔ ∃ node, .result node name ∈ stack := by
  constructor
  · intro h
    obtain ⟨entry, hmem, heq⟩ := List.mem_filterMap.mp h
    cases entry with
    | word text => cases heq
    | result node name' =>
      cases heq
      exact ⟨node, hmem⟩
  · rintro ⟨node, hmem⟩
    exact List.mem_filterMap.mpr ⟨_, hmem, rfl⟩

theorem waitingNames_sublist (h : lower <:+ stack) :
    (waitingNames lower).Sublist (waitingNames stack) :=
  h.sublist.filterMap _

end Stacks

/-! ### Results and nodes -/

/-- What waits is what operators have left, and the latest result waits above all others. -/
structure Registered (e : Evaluation) : Prop where
  /-- Results wait under the names of their nodes. -/
  names : ∀ node name, .result node name ∈ e.stack →
    e.steps[node]?.map (·.resultName) = some name
  /-- The result of the last operator waits, and all results below it are earlier. -/
  latest : ∀ front last, e.steps = front ++ [last] → ∃ (above : List String) (below : _),
    e.stack = above.map .word ++ .result front.length last.resultName :: below ∧
      ∀ node name, .result node name ∈ below → node < front.length

theorem namesOf_eq_waitingNames {steps : List Step} {stack : List StackEntry}
    (h : ∀ node name, .result node name ∈ stack → steps[node]?.map (·.resultName) = some name) :
    namesOf steps stack = waitingNames stack := by
  refine List.filterMap_congr fun entry hmem => ?_
  cases entry with
  | word text => rfl
  | result node name => exact h node name hmem

namespace Evaluation

variable {catalog : Catalog} {stem : String}

theorem registered_start : Registered start := by
  constructor
  · intro node name hmem
    cases hmem
  · intro front last hsteps
    exact absurd hsteps.symm (by simp [start])

theorem registered_push {e : Evaluation} (h : Registered e) (word : String) :
    Registered (e.push (.word word)) := by
  constructor
  · intro node name hmem
    rcases List.mem_cons.mp hmem with heq | hmem
    · cases heq
    · exact h.names node name hmem
  · intro front last hsteps
    obtain ⟨above, below, hstack, hbelow⟩ := h.latest front last hsteps
    refine ⟨word :: above, below, ?_, hbelow⟩
    simp [push, hstack]

/-- An operator needs to know of the names below its result only. -/
theorem registered_emit {e : Evaluation}
    (h : ∀ node name, .result node name ∈ e.stack → e.steps[node]?.map (·.resultName) = some name)
    (operation : Operation) (args : List Operand) : Registered (e.emit stem operation args) := by
  have hlt : ∀ node name, .result node name ∈ e.stack → node < e.steps.length := by
    intro node name hmem
    obtain ⟨step, hstep, -⟩ := Option.map_eq_some_iff.mp (h node name hmem)
    exact (List.getElem?_eq_some_iff.mp hstep).1
  constructor
  · intro node name hmem
    rcases List.mem_cons.mp hmem with heq | hmem
    · cases heq
      simp [emit]
    · simp only [emit]
      rw [List.getElem?_append_left (hlt node name hmem)]
      exact h node name hmem
  · intro front last hsteps
    obtain ⟨rfl, hlast⟩ := List.append_inj' hsteps rfl
    cases hlast
    exact ⟨[], e.stack, rfl, hlt⟩

theorem registered_consume {e : Evaluation} (h : Registered e) (word : String) :
    Registered (e.consume catalog stem word) := by
  cases hl : catalog.lookup word .either with
  | none =>
    rw [consume_operand hl]
    exact registered_push h word
  | some spec =>
    rw [consume_operator hl]
    refine registered_emit (fun node name hmem => ?_) _ _
    rw [collectArgs_steps]
    exact h.names node name ((takeOperands_suffix e spec.arity []).mem hmem)

theorem registered_readWords (words : List String) :
    Registered (start.readWords catalog stem words) :=
  readWords_induct (P := Registered) (fun _ word _ h => registered_consume h word) registered_start

end Evaluation

/-! ### Names that are given -/

/-- No two results that wait at one time have the same name: not while the words before the first
result arrow are read, when an operator may have taken a part of its operands from the stack, and
not after the arrow has renamed the last result. -/
structure KeepsApart (catalog : Catalog) (stem : String) (words : List String) : Prop where
  /-- While words are read. -/
  reading : ∀ before, before <+: words.takeWhile (· ≠ resultArrow) →
    ∀ lower, lower <:+ (Evaluation.start.readWords catalog stem before).stack →
      (namesOf (Evaluation.start.readWords catalog stem before).steps lower).Nodup
  /-- After the arrow. -/
  renamed : (namesOf (Plan.ofWords catalog stem words).finalSteps
    (Plan.evaluationBefore catalog stem words).stack).Nodup

/-- An operator stands among words after what has been read. -/
def Meets (catalog : Catalog) (stem : String) (words : List String) (e : Evaluation)
    (spec : OperatorSpec) : Prop :=
  ∃ before word after, words = before ++ word :: after ∧
    catalog.lookup word .either = some spec ∧ e = Evaluation.start.readWords catalog stem before

/-- The last of some words is an operator, or an earlier one is. -/
theorem meets_concat {catalog : Catalog} {stem : String} {before : List String} {word : String}
    {e : Evaluation} {spec : OperatorSpec} :
    Meets catalog stem (before ++ [word]) e spec ↔
      Meets catalog stem before e spec ∨
        catalog.lookup word .either = some spec ∧
          e = Evaluation.start.readWords catalog stem before := by
  constructor
  · rintro ⟨first, operator, after, hwords, hl, he⟩
    rcases List.eq_nil_or_concat after with rfl | ⟨after, last, rfl⟩
    · obtain ⟨rfl, hlast⟩ := List.append_inj' hwords rfl
      cases hlast
      exact .inr ⟨hl, he⟩
    · rw [List.concat_eq_append, ← List.cons_append, ← List.append_assoc] at hwords
      exact .inl ⟨first, operator, after, (List.append_inj' hwords rfl).1, hl, he⟩
  · rintro (⟨first, operator, after, rfl, hl, he⟩ | ⟨hl, he⟩)
    · exact ⟨first, operator, after ++ [word], by simp, hl, he⟩
    · exact ⟨before, word, [], rfl, hl, he⟩

/-- What an operator leaves of a state when it takes its operands. -/
def Evaluation.left (stem : String) (e : Evaluation) (spec : OperatorSpec) : Evaluation :=
  (e.collectArgs stem spec.operation spec.arity).2

/-- No operator among words gives its result the name of a result that waits. -/
def NamesFresh (catalog : Catalog) (stem : String) (words : List String) : Prop :=
  ∀ e spec, Meets catalog stem words e spec →
    syntheticName stem (e.left stem spec).counter ∉ waitingNames (e.left stem spec).stack

section Apart

variable {catalog : Catalog} {stem : String} {words : List String}

theorem Evaluation.readWords_concat_operator {e : Evaluation} {before : List String} {word : String}
    {spec : OperatorSpec} (h : catalog.lookup word .either = some spec) :
    e.readWords catalog stem (before ++ [word]) =
      ((e.readWords catalog stem before).left stem spec).emit stem spec.operation
        ((e.readWords catalog stem before).collectArgs stem spec.operation spec.arity).1 := by
  rw [readWords_append, readWords_cons, readWords_nil, consume_operator h]
  rfl

theorem Evaluation.readWords_concat_operand {e : Evaluation} {before : List String} {word : String}
    (h : catalog.lookup word .either = none) :
    e.readWords catalog stem (before ++ [word]) =
      (e.readWords catalog stem before).push (.word word) := by
  rw [readWords_append, readWords_cons, readWords_nil, consume_operand h]

theorem Evaluation.left_suffix (e : Evaluation) (spec : OperatorSpec) :
    (e.left stem spec).stack <:+ e.stack :=
  takeOperands_suffix e spec.arity []

/-- While words are read the names stay apart exactly if operators give fresh ones. -/
theorem nodup_waitingNames_iff_namesFresh :
    (∀ before, before <+: words →
      (waitingNames (Evaluation.start.readWords catalog stem before).stack).Nodup) ↔
    NamesFresh catalog stem words := by
  constructor
  · rintro h e spec ⟨before, word, after, rfl, hl, rfl⟩
    have hnodup := h (before ++ [word]) ⟨after, by simp⟩
    rw [Evaluation.readWords_concat_operator hl] at hnodup
    exact (List.nodup_cons.mp hnodup).1
  · intro h before
    induction before using List.reverseRecOn with
    | nil => exact fun _ => List.nodup_nil
    | append_singleton before word ih =>
      rintro ⟨after, rfl⟩
      have hnodup := ih ⟨word :: after, by simp⟩
      cases hl : catalog.lookup word .either with
      | none =>
        rw [Evaluation.readWords_concat_operand hl]
        exact hnodup
      | some spec =>
        rw [Evaluation.readWords_concat_operator hl]
        refine List.nodup_cons.mpr ⟨h _ spec ⟨before, word, after, by simp, hl, rfl⟩, ?_⟩
        exact hnodup.sublist (waitingNames_sublist (Evaluation.left_suffix _ spec))

theorem namesOf_finalSteps_of_none (h : (Plan.ofWords catalog stem words).finalName = none) :
    namesOf (Plan.ofWords catalog stem words).finalSteps
        (Plan.evaluationBefore catalog stem words).stack =
      waitingNames (Plan.evaluationBefore catalog stem words).stack := by
  have hregistered : Registered (Plan.evaluationBefore catalog stem words) :=
    Evaluation.registered_readWords _
  simp only [Plan.finalSteps, h, Plan.steps_ofWords]
  exact namesOf_eq_waitingNames hregistered.names

/-- The arrow renames the result that waits above all others. -/
theorem namesOf_finalSteps_of_some {name : String}
    (h : (Plan.ofWords catalog stem words).finalName = some name) :
    namesOf (Plan.ofWords catalog stem words).finalSteps
        (Plan.evaluationBefore catalog stem words).stack =
      name :: (waitingNames (Plan.evaluationBefore catalog stem words).stack).tail := by
  have hregistered : Registered (Plan.evaluationBefore catalog stem words) :=
    Evaluation.registered_readWords _
  simp only [Plan.finalSteps, h, Plan.steps_ofWords]
  rcases List.eq_nil_or_concat (Plan.evaluationBefore catalog stem words).steps with
    hnil | ⟨front, last, hsteps⟩
  · exact absurd hnil (Plan.steps_ne_nil_of_finalName h)
  · rw [List.concat_eq_append] at hsteps
    obtain ⟨above, below, hstack, hbelow⟩ := hregistered.latest front last hsteps
    have hnames : namesOf (front ++ [{ last with resultName := name }]) below =
        waitingNames below := by
      refine namesOf_eq_waitingNames fun node name' hmem => ?_
      have hlt : node < front.length := hbelow node name' hmem
      have hbefore := hregistered.names node name' (by simp [hstack, hmem])
      rw [hsteps, List.getElem?_append_left hlt] at hbefore
      rw [List.getElem?_append_left hlt, hbefore]
    rw [hsteps, Step.renameLast_concat, hstack, namesOf_append, namesOf_words,
      namesOf_result List.getElem?_concat_length, hnames, waitingNames_append, waitingNames_words]
    rfl

/-- **When the names of waiting results stay apart**: exactly if no operator gives its result the
name of a result that waits, nor does the arrow give it to the last result. -/
theorem keepsApart_iff_namesFresh : KeepsApart catalog stem words ↔
    NamesFresh catalog stem (words.takeWhile (· ≠ resultArrow)) ∧
      ∀ name ∈ (Plan.ofWords catalog stem words).finalName,
        name ∉ (waitingNames (Plan.evaluationBefore catalog stem words).stack).tail := by
  have hnames (before : List String) {lower : List StackEntry}
      (hlower : lower <:+ (Evaluation.start.readWords catalog stem before).stack) :
      namesOf (Evaluation.start.readWords catalog stem before).steps lower = waitingNames lower :=
    namesOf_eq_waitingNames fun node name hmem =>
      (Evaluation.registered_readWords before).names node name (hlower.mem hmem)
  rw [← nodup_waitingNames_iff_namesFresh]
  constructor
  · intro h
    refine ⟨fun before hbefore => ?_, fun name hname => ?_⟩
    · rw [← hnames before List.suffix_rfl]
      exact h.reading before hbefore _ List.suffix_rfl
    · have hnodup := h.renamed
      rw [namesOf_finalSteps_of_some hname] at hnodup
      exact (List.nodup_cons.mp hnodup).1
  · rintro ⟨hreading, hfinal⟩
    have hlast : (waitingNames (Plan.evaluationBefore catalog stem words).stack).Nodup :=
      hreading _ List.prefix_rfl
    constructor
    · intro before hbefore lower hlower
      rw [hnames before hlower]
      exact (hreading before hbefore).sublist (waitingNames_sublist hlower)
    · cases hname : (Plan.ofWords catalog stem words).finalName with
      | none =>
        rw [namesOf_finalSteps_of_none hname]
        exact hlast
      | some name =>
        rw [namesOf_finalSteps_of_some hname]
        exact List.nodup_cons.mpr ⟨hfinal name hname, hlast.sublist (List.tail_sublist _)⟩

end Apart

end FormulaChain
