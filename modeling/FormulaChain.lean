import FormulaChain.Graph.Order
import FormulaChain.Main
import FormulaChain.Sink.Recording
import FormulaChain.Sink.Traced
import FormulaChain.Storage.Graph
import FormulaChain.Proofs.Formula.Name
import FormulaChain.Proofs.Formula.Stack
import FormulaChain.Proofs.Sink.Build
import FormulaChain.Proofs.Formula.Numbering
import FormulaChain.Proofs.Formula.Preservation
import FormulaChain.Proofs.Sink.Recording
import FormulaChain.Proofs.Formula.Word
import FormulaChain.Proofs.Catalog.Builtin
import FormulaChain.Proofs.Formula.Expression
import FormulaChain.Proofs.Formula.Vector
import FormulaChain.Proofs.Formula.Readback
import FormulaChain.Proofs.Table
import FormulaChain.Proofs.Graph.Basic
import FormulaChain.Proofs.Graph.Agreement
import FormulaChain.Proofs.Graph.Chain
import FormulaChain.Proofs.Graph.Emission
import FormulaChain.Proofs.Graph.Compile
import FormulaChain.Proofs.Formula.Waiting
import FormulaChain.Proofs.Formula.Literal
import FormulaChain.Proofs.Formula.Release
import FormulaChain.Proofs.Graph.Request
import FormulaChain.Proofs.Sink.Failure
import FormulaChain.Proofs.Graph.Edit
import FormulaChain.Proofs.Graph.Integrity
import FormulaChain.Proofs.Graph.Recorded
import FormulaChain.Proofs.Graph.Lockstep
import FormulaChain.Proofs.Formula.Shift
import FormulaChain.Proofs.Formula.Composition
import FormulaChain.Proofs.Sink.Layout
import FormulaChain.Proofs.Sink.Placement
import FormulaChain.Proofs.Sink.Composition
import FormulaChain.Proofs.Graph.Forward
import FormulaChain.Proofs.Catalog.Tables
import FormulaChain.Proofs.Formula.Operators
import FormulaChain.Proofs.Sink.Appended
import FormulaChain.Proofs.Sink.Arrow
import FormulaChain.Proofs.Sink.Cancellation
import FormulaChain.Proofs.Outcome
import FormulaChain.Proofs.Formula.Reuse
import FormulaChain.Proofs.Graph.Order
import FormulaChain.Proofs.Formula.Restem
import FormulaChain.Proofs.Sink.Restem
import FormulaChain.Proofs.Binary.Accuracy
import FormulaChain.Proofs.Json.Text
import FormulaChain.Proofs.Json.Number
import FormulaChain.Proofs.Json.Numeral
import FormulaChain.Proofs.Decimal.Grid
import FormulaChain.Proofs.Json.Single
import FormulaChain.Proofs.Json.Stored
import FormulaChain.Proofs.Storage.Codec
import FormulaChain.Proofs.Storage.Compilation
import FormulaChain.Proofs.Formula.Depth
import FormulaChain.Proofs.Sink.Underflow
import FormulaChain.Proofs.Catalog.Acceptance
import FormulaChain.Proofs.Single.Digits
import FormulaChain.Proofs.Formula.Referable
import FormulaChain.Proofs.Formula.Dependency
import FormulaChain.Proofs.Catalog.Duplicates
import FormulaChain.Proofs.Formula.Separation
import FormulaChain.Proofs.Graph.Relabel
import FormulaChain.Proofs.Ron.Text
import FormulaChain.Proofs.Ron.Stored
import FormulaChain.Proofs.Storage.Settings
import FormulaChain.Proofs.CommandLine.Settings
import FormulaChain.Proofs.Decimal.Layout
import FormulaChain.Proofs.Single.Text
import FormulaChain.Proofs.Node.Binding
import FormulaChain.Proofs.Formula.Reference
import FormulaChain.Proofs.Formula.Handed
