import FormulaChain.Formula.Plan
import FormulaChain.Formula.Settings
import FormulaChain.Node.Binding
import FormulaChain.Sink.Basic

/-!
# Building a plan into a sink

The nodes of a plan are created in the order of the formula, each placed to the right of the one
before and linked to it through the geometry. Then the last result gets its final name, the nodes
are put into a frame, and the graph is refreshed. A cancelled plan touches the sink only to ask
whether it is ready; a request that is refused ends the build at once.
-/

namespace FormulaChain

/-- A node that was emitted for one operator, with handles `N`. -/
structure EmittedNode (N : Type) where
  /-- The handle of the node. -/
  handle : N
  /-- The operation it performs. -/
  operation : Operation
  /-- The operands in the order of the parameters. -/
  args : List Operand
  /-- How each operand is bound. -/
  bindings : List Binding
  /-- The attribute that the result is stored in. -/
  resultName : String
  /-- The place in the formula, from zero. -/
  sequenceIndex : Nat
  /-- Where the node was placed. -/
  position : Planar
  deriving DecidableEq

namespace EmittedNode

variable {N : Type}

/-- The domain of the node's operation. -/
def domain (node : EmittedNode N) : Domain := node.operation.domain

/-- The kind of the node. -/
def kind (node : EmittedNode N) : NodeKind := node.operation.nodeKind

end EmittedNode

/-- What a compilation produced, with node handles `N` and frame handles `F`. -/
structure CompileOutput (N F : Type) where
  /-- How the build ended. -/
  status : BuildStatus
  /-- The nodes in the order of the formula. -/
  nodes : List (EmittedNode N)
  /-- The diagnostics in the order they were raised. -/
  diagnostics : List Diagnostic
  /-- The frame that holds all nodes, if one was created. -/
  frame : Option F
  deriving DecidableEq

namespace CompileOutput

variable {N F : Type}

/-- Whether the build was cancelled. -/
def isCancelled (o : CompileOutput N F) : Bool := o.status = .cancelled

/-- The attribute that holds the final result. -/
def resultName (o : CompileOutput N F) : Option String := o.nodes.getLast?.map (·.resultName)

/-- The diagnostics of a severity. -/
def diagnosticsWith (o : CompileOutput N F) (severity : Severity) : List Diagnostic :=
  o.diagnostics.filter (·.severity = severity)

/-- Whether any diagnostic was raised. -/
def hasDiagnostics (o : CompileOutput N F) : Bool := !o.diagnostics.isEmpty

end CompileOutput

/-- Why a compilation gave no output. -/
inductive CompileError (N F E : Type) where
  /-- The settings have a stem that cannot be used. -/
  | invalidStem (stem : String)
  /-- The sink refused a request. -/
  | sink (error : SinkError N F E)
  deriving DecidableEq

/-- The text of a compile error; that of a refusal is written by the function given. -/
def CompileError.message {N F E : Type} (refusal : SinkError N F E → String) :
    CompileError N F E → String
  | .invalidStem stem => invalidStemMessage stem
  | .sink error => "graph sink error: " ++ refusal error

namespace GraphSink

variable {σ N F E : Type}

/-- Places a node: the first at the origin, every other one to the right of its predecessor, to
which it is linked. -/
def place (sink : GraphSink σ N F E) (previous : Option (EmittedNode N)) (node : N) :
    SinkRun σ N F E Planar := do
  let position ← match previous with
    | none => pure originPosition
    | some before =>
      let layout : NodeLayout ← sink.call (.nodeLayout before.handle)
      sink.call (.connect before.handle .geometry node .geometry)
      pure (layout.position.1 + layout.width + nodeGap, layout.position.2)
  sink.call (.setPosition node position)
  return position

/-- Writes a binding into a node. -/
def writeBinding (sink : GraphSink σ N F E) (node : N) (b : Binding) : SinkRun σ N F E Unit := do
  sink.call (.setInputKind node b.slot b.kind)
  sink.call (.setInputValue node b.socket b.value)

/-- Creates, places, binds and names the node of one step. -/
def emitStep (sink : GraphSink σ N F E) (emitted : List (EmittedNode N)) (step : Step) :
    SinkRun σ N F E (List (EmittedNode N)) := do
  let node : N ← sink.call (.createNode step.operation.nodeKind)
  let position ← sink.place emitted.getLast? node
  sink.call (.setOperation node step.operation)
  let bindings := step.operation.bind step.args
  bindings.forM (sink.writeBinding node)
  sink.call (.setInputValue node .result (.text step.resultName))
  return emitted ++ [{
    handle := node
    operation := step.operation
    args := step.args
    bindings := bindings
    resultName := step.resultName
    sequenceIndex := emitted.length
    position := position }]

/-- Gives the last of the emitted nodes its final name. -/
def renameLast (sink : GraphSink σ N F E) (emitted : List (EmittedNode N)) (name : String) :
    SinkRun σ N F E (List (EmittedNode N)) := do
  match emitted.getLast? with
  | none => return emitted
  | some last =>
    sink.call (.setInputValue last.handle .result (.text name))
    return emitted.dropLast ++ [{ last with resultName := name }]

/-- Puts the emitted nodes into a new frame, if there are any. -/
def frameNodes (sink : GraphSink σ N F E) (emitted : List (EmittedNode N)) (label : String) :
    SinkRun σ N F E (Option F) := do
  if emitted.isEmpty then return none
  let frame : F ← sink.call (.createFrame label)
  emitted.forM fun node => sink.call (.assignToFrame node.handle frame)
  return some frame

/-- Builds a plan into a sink. -/
def build (sink : GraphSink σ N F E) (plan : Plan) (label : String) (addFrame : Bool) :
    SinkRun σ N F E (CompileOutput N F) := do
  sink.call .ensureReady
  if plan.status = .cancelled then
    return ⟨.cancelled, [], plan.diagnostics, none⟩
  let emitted ← plan.steps.foldlM sink.emitStep []
  let emitted ← match plan.finalName with
    | none => pure emitted
    | some name => sink.renameLast emitted name
  let frame ← if addFrame then sink.frameNodes emitted label else pure none
  sink.callRefresh
  return ⟨plan.status, emitted, plan.diagnostics, frame⟩

/-- Compiles the formula of settings into a sink. -/
def compile (sink : GraphSink σ N F E) (catalog : Catalog) (settings : Settings) (state : σ) :
    Except (CompileError N F E) (CompileOutput N F) × σ :=
  if settings.isValid then
    let plan := Plan.ofFormula catalog settings.tempName settings.formula
    let (result, state) := sink.build plan settings.formula settings.addFrame state
    (result.mapError .sink, state)
  else (.error (.invalidStem settings.tempName), state)

end GraphSink

end FormulaChain
