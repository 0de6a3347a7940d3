import FormulaChain.Graph.Basic
import FormulaChain.Storage.Compilation

/-!
# Reports

What is said about one formula after it was compiled into a graph: how the build ended, the nodes in
order, the diagnostics, and how large the graph has become. A report is a summary for readers or a
document.
-/

namespace FormulaChain

/-- The forms of a report. -/
inductive ReportFormat where
  /-- A summary for readers. -/
  | text
  /-- A RON document. -/
  | ron
  /-- A JSON document. -/
  | json
  deriving DecidableEq

namespace ReportFormat

/-- All forms. -/
def all : List ReportFormat := [.text, .ron, .json]

/-- The name of a form. -/
def name : ReportFormat → String
  | .text => "text"
  | .ron => "ron"
  | .json => "json"

/-- The form with a name. -/
def ofName? (name : String) : Option ReportFormat := all.find? (·.name = name)

end ReportFormat

/-- A node in a report. -/
structure NodeReport where
  /-- The place in the formula, from zero. -/
  index : Nat
  /-- The text of the operation. -/
  operation : String
  /-- The texts of the operands. -/
  args : List String
  /-- The attribute that the result is stored in. -/
  result : String
  /-- Where the node was placed. -/
  position : Planar
  deriving DecidableEq

/-- What is said about a formula. -/
structure Report where
  /-- The formula. -/
  formula : String
  /-- How the build ended. -/
  status : BuildStatus
  /-- The attribute that holds the final result. -/
  result : Option String
  /-- The nodes in the order of the formula. -/
  nodes : List NodeReport
  /-- The diagnostics in the order they were raised. -/
  diagnostics : List Diagnostic
  /-- How many nodes the graph has. -/
  nodeCount : Nat
  /-- How many connections the graph has. -/
  linkCount : Nat
  /-- How many frames the graph has. -/
  frameCount : Nat
  deriving DecidableEq

namespace NodeReport

/-- The report on an emitted node. -/
def ofNode {N : Type} (n : EmittedNode N) : NodeReport where
  index := n.sequenceIndex
  operation := n.operation.text
  args := n.args.map Operand.text
  result := n.resultName
  position := n.position

/-- The line about a node. -/
def text (n : NodeReport) : String :=
  "  #" ++ toString n.index ++ " " ++ n.operation ++ "(" ++ ", ".intercalate n.args ++ ") -> " ++
    n.result ++ " at (" ++ n.position.1.plainText ++ ", " ++ n.position.2.plainText ++ ")"

/-- The node in a document. -/
def datum (n : NodeReport) : Datum :=
  .record [("index", .natural n.index), ("operation", .text n.operation),
    ("args", Storable.store n.args), ("result", .text n.result),
    ("position", Storable.store n.position)]

end NodeReport

namespace Report

/-- The report on a formula whose compilation left a graph. -/
def ofOutput {N F : Type} (formula : String) (o : CompileOutput N F) (g : Graph) : Report where
  formula := formula
  status := o.status
  result := o.resultName
  nodes := o.nodes.map .ofNode
  diagnostics := o.diagnostics
  nodeCount := g.nodes.size
  linkCount := g.connections.size
  frameCount := g.frames.size

/-- The line about the graph. -/
def graphText (r : Report) : String :=
  "graph:   " ++ toString r.nodeCount ++ " nodes, " ++ toString r.linkCount ++ " links, " ++
    toString r.frameCount ++ " frames"

/-- The lines of the summary for readers. -/
def lines (r : Report) : List String :=
  ["formula: " ++ r.formula, "status:  " ++ r.status.text] ++
    (r.result.map ("result:  " ++ ·)).toList ++ r.nodes.map NodeReport.text ++
    r.diagnostics.map Diagnostic.text ++ [r.graphText]

/-- The summary for readers. -/
def text (r : Report) : String := "\n".intercalate r.lines

/-- The report as a document. -/
def datum (r : Report) : Datum :=
  .record [("formula", .text r.formula), ("status", Storable.store r.status),
    ("result", Storable.store r.result), ("nodes", .list (r.nodes.map NodeReport.datum)),
    ("diagnostics", Storable.store r.diagnostics),
    ("graph", .record [("nodes", .natural r.nodeCount), ("links", .natural r.linkCount),
      ("frames", .natural r.frameCount)])]

/-- The report in a form. -/
def render (r : Report) : ReportFormat → String
  | .text => r.text
  | .ron => r.datum.toRon.pretty
  | .json => r.datum.toJson.pretty

end Report

end FormulaChain
