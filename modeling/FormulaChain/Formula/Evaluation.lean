import FormulaChain.Catalog.Basic
import FormulaChain.Formula.Diagnostic
import FormulaChain.Formula.Operand

/-!
# Reading a formula

A formula in postfix order is read word by word. An operand waits on a stack as it is written; an
operator takes its operands from the stack, resolves them, and leaves the name of its result there.
Results are named by a common stem and a counter: a result that is taken gives its number back.

A vector literal is written `(x y z)`, each parenthesis alone or fused with its neighbour. The stack
is unwound from its top, so that the closing parenthesis is met first and the components are read in
reverse.
-/

namespace FormulaChain

/-- What waits on the stack: a word of the formula, or the result of an earlier node under its
name. -/
inductive StackEntry where
  /-- A word as it stands in the formula. -/
  | word (text : String)
  /-- The result of the node with this number, counted from zero. -/
  | result (node : Nat) (name : String)
  deriving DecidableEq

namespace StackEntry

/-- The text by which an entry is resolved. -/
def text : StackEntry → String
  | .word t => t
  | .result _ name => name

end StackEntry

/-- One operator of the formula with its resolved operands and the name of its result. -/
structure Step where
  /-- The operation to perform. -/
  operation : Operation
  /-- The operands in the order of the parameters. -/
  args : List Operand
  /-- The synthetic name of the result. -/
  resultName : String
  deriving DecidableEq

/-- The name of the result with a number: the stem itself for zero, the stem and the number for
others. -/
def syntheticName (stem : String) : Nat → String
  | 0 => stem
  | n + 1 => stem ++ toString (n + 1)

/-- Whether a text begins with the stem of synthetic names. -/
def hasStem (stem text : String) : Bool := stem.toList.isPrefixOf text.toList

/-- The text of a word without its last character if that closes a vector literal. -/
def withoutClosing? (text : String) : Option String :=
  if text.toList.getLast? = some ')' then some (String.ofList text.toList.dropLast) else none

/-- The text of a word without its first character if that opens a vector literal. -/
def withoutOpening? (text : String) : Option String :=
  match text.toList with
  | '(' :: rest => some (String.ofList rest)
  | _ => none

/-! ### Vector literals -/

/-- A component of a vector literal; what is missing or no number is reported and counts as zero. -/
def component (text : Option String) : Single × List Diagnostic :=
  match text.bind Single.ofText? with
  | some value => (value, [])
  | none =>
    (.zero, [.ofKind .malformedOperand
      ("Vectors are made up of floats separated by spaces. Got: " ++ text.getD "")])

/-- The text on top of a stack, and the stack below it. -/
def takeTop : List StackEntry → Option String × List StackEntry
  | [] => (none, [])
  | entry :: below => (some entry.text, below)

/-- The opening parenthesis that stands alone below the first component; if it is not there, that is
reported and the stack stays. -/
def takeOpening : List StackEntry → List Diagnostic × List StackEntry
  | [] => ([missing], [])
  | entry :: below => if entry.text = "(" then ([], below) else ([missing], entry :: below)
where
  /-- The report of an opening parenthesis that is not there. -/
  missing : Diagnostic :=
    .ofKind .malformedOperand "Vector literal is missing its opening parenthesis"

/-- The first component and the opening parenthesis of a vector literal. -/
def takeFirst (stack : List StackEntry) : Single × List Diagnostic × List StackEntry :=
  match takeTop stack with
  | (none, below) =>
    let (x, reports) := component none
    (x, reports, below)
  | (some text, below) =>
    match withoutOpening? text with
    | some fused =>
      let (x, reports) := component (some fused)
      (x, reports, below)
    | none =>
      let (opening, below) := takeOpening below
      let (x, reports) := component (some text)
      (x, opening ++ reports, below)

/-- The last component of a vector literal: fused with the closing parenthesis, or else on top of
the stack. -/
def takeLast (fused : String) (stack : List StackEntry) :
    Single × List Diagnostic × List StackEntry :=
  if fused = "" then
    let (text, below) := takeTop stack
    let (z, reports) := component text
    (z, reports, below)
  else
    let (z, reports) := component (some fused)
    (z, reports, stack)

/-- The vector literal whose closing word, taken already, had this text before its parenthesis. -/
def takeVector (fused : String) (stack : List StackEntry) :
    Triple × List Diagnostic × List StackEntry :=
  let (z, zReports, stack) := takeLast fused stack
  let (yText, stack) := takeTop stack
  let (y, yReports) := component yText
  let (x, xReports, stack) := takeFirst stack
  (⟨x, y, z⟩, zReports ++ yReports ++ xReports, stack)

/-! ### The state of reading -/

/-- What has been read of a formula. -/
structure Evaluation where
  /-- Operands and results that wait, the latest first. -/
  stack : List StackEntry
  /-- The number of the next synthetic name. -/
  counter : Nat
  /-- The operators read so far, in the order of the formula. -/
  steps : List Step
  /-- The diagnostics raised so far. -/
  diagnostics : List Diagnostic
  deriving DecidableEq

namespace Evaluation

/-- Nothing read. -/
def start : Evaluation := ⟨[], 0, [], []⟩

/-- Adds a report. -/
def report (e : Evaluation) (d : Diagnostic) : Evaluation :=
  { e with diagnostics := e.diagnostics ++ [d] }

/-- Lets an entry wait on the stack. -/
def push (e : Evaluation) (entry : StackEntry) : Evaluation :=
  { e with stack := entry :: e.stack }

/-- Resolves a text that was just taken from the stack. A text that ends in a closing parenthesis is
a vector literal, a numeral is a number, all else is a name; a name with the stem of synthetic names
gives its number back. -/
def resolve (stem : String) (e : Evaluation) (text : String) : Operand × Evaluation :=
  match withoutClosing? text with
  | some fused =>
    let (vector, reports, stack) := takeVector fused e.stack
    (.vector vector, { e with stack := stack, diagnostics := e.diagnostics ++ reports })
  | none =>
    match Single.ofText? text with
    | some value => (.scalar value, e)
    | none =>
      (.reference text, if hasStem stem text then { e with counter := e.counter - 1 } else e)

/-- The report of an operand that is not there, with the operands taken so far. -/
def underflow (operation : Operation) (arity : Nat) (taken : List Operand) : Diagnostic :=
  .ofKind .argumentUnderflow
    ("Invalid number of arguments for " ++ operation.id.toLower ++
      s!". Expected {arity} arguments, got args: " ++ Operand.listText taken ++ ".")

/-- Takes one operand from the stack; where there is none, that is reported and a placeholder stands
for it. -/
def takeOperand (stem : String) (operation : Operation) (arity : Nat) (taken : List Operand)
    (e : Evaluation) : Operand × Evaluation :=
  match e.stack with
  | entry :: below => resolve stem { e with stack := below } entry.text
  | [] => (.missing, e.report (underflow operation arity taken))

/-- Takes `count` more operands after those taken, which are listed from the top of the stack
down. -/
def takeOperands (stem : String) (operation : Operation) (arity : Nat) :
    Nat → List Operand → Evaluation → List Operand × Evaluation
  | 0, taken, e => (taken, e)
  | count + 1, taken, e =>
    let (operand, e) := takeOperand stem operation arity taken e
    takeOperands stem operation arity count (taken ++ [operand]) e

/-- The operands of an operator in the order of its parameters, the reverse of that of the stack. -/
def collectArgs (stem : String) (operation : Operation) (arity : Nat) (e : Evaluation) :
    List Operand × Evaluation :=
  let (taken, e) := takeOperands stem operation arity arity [] e
  (taken.reverse, e)

/-- Records an operator and leaves the name of its result on the stack. -/
def emit (stem : String) (operation : Operation) (args : List Operand) (e : Evaluation) :
    Evaluation :=
  let name := syntheticName stem e.counter
  { e with
    stack := .result e.steps.length name :: e.stack
    counter := e.counter + 1
    steps := e.steps ++ [⟨operation, args, name⟩] }

/-- Reads one word other than a result arrow. -/
def consume (catalog : Catalog) (stem : String) (e : Evaluation) (word : String) : Evaluation :=
  match catalog.lookup word .either with
  | some spec =>
    let (args, e) := e.collectArgs stem spec.operation spec.arity
    e.emit stem spec.operation args
  | none => e.push (.word word)

/-- Reads words in order. -/
def readWords (catalog : Catalog) (stem : String) (e : Evaluation) (words : List String) :
    Evaluation :=
  words.foldl (consume catalog stem) e

end Evaluation

end FormulaChain
