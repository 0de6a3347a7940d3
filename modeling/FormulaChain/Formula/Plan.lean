import FormulaChain.Formula.Evaluation
import FormulaChain.Formula.Token

/-!
# Plans

What a formula asks for, before any node exists: the operators in order with their operands and the
names of their results, the diagnostics, and what the result arrow does. A plan does not depend on
the node graph it is built into.
-/

namespace FormulaChain

/-- How a build ends. -/
inductive BuildStatus where
  /-- The whole formula was processed. -/
  | finished
  /-- A fatal diagnostic stopped the build. -/
  | cancelled
  deriving DecidableEq

/-- The name of a status. -/
def BuildStatus.text : BuildStatus → String
  | .finished => "Finished"
  | .cancelled => "Cancelled"

/-- What a formula asks for. -/
structure Plan where
  /-- The operators in the order of the formula. -/
  steps : List Step
  /-- The diagnostics in the order they were raised. -/
  diagnostics : List Diagnostic
  /-- How the build ends. -/
  status : BuildStatus
  /-- The name that the result arrow gives to the last result. -/
  finalName : Option String
  deriving DecidableEq

namespace Plan

/-- The report of a result arrow with nothing to name. -/
def nothingToName : Diagnostic :=
  .ofKind .unassignableResult "No operations added but result set"

/-- What the words before the first result arrow ask for. -/
def evaluationBefore (catalog : Catalog) (stem : String) (words : List String) : Evaluation :=
  Evaluation.start.readWords catalog stem (words.takeWhile (· ≠ resultArrow))

/-- The plan of a sequence of words. The first result arrow ends the reading; it gives the last word
of the whole sequence as a name to the last result, and cancels the build if there is none. -/
def ofWords (catalog : Catalog) (stem : String) (words : List String) : Plan :=
  let e := evaluationBefore catalog stem words
  if resultArrow ∈ words then
    if e.steps = [] then ⟨[], e.diagnostics ++ [nothingToName], .cancelled, none⟩
    else ⟨e.steps, e.diagnostics, .finished, words.getLast?⟩
  else ⟨e.steps, e.diagnostics, .finished, none⟩

/-- The plan of a formula. -/
def ofFormula (catalog : Catalog) (stem formula : String) : Plan :=
  ofWords catalog stem (tokenize formula)

end Plan

end FormulaChain
