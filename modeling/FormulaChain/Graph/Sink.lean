import FormulaChain.Graph.Basic
import FormulaChain.Graph.Geometry
import FormulaChain.Sink.Basic

/-!
# A graph as a sink

Formulas can be built straight into a geometry graph. Nodes are made from the types of geometry
graphs, values are stored as defaults of input ports, and links join the ports named by the sockets.
-/

namespace FormulaChain.Graph

variable [IdentitySupply]

/-- Why a graph refuses a request. -/
abbrev Refusal := SinkError NodeId FrameId GraphError

/-- The text of a refused request. -/
def refusalMessage (names : GraphNames) (e : Refusal) : String :=
  e.message names.node names.frame (GraphError.message names)

/-- Whether formulas can be built into the graph. -/
def ready (g : Graph) : Except Refusal Unit :=
  if g.kind = .geometry then .ok () else .error (.unsupported (.unsupportedKind g.kind))

/-- Changes a node that is there. -/
def changeNode (node : NodeId) (f : Node → Node) (g : Graph) : Except Refusal Unit × Graph :=
  if g.nodes.contains node then (.ok (), g.modifyNode node f)
  else (.error (.unknownNode node), g)

/-- Stores the default value of the input with a name. -/
def writeInput (node : NodeId) (name : String) (value : SocketValue) (g : Graph) :
    Except Refusal Unit × Graph :=
  match g.node? node with
  | none => (.error (.unknownNode node), g)
  | some n =>
    match n.input? name with
    | none => (.error (.backend (.portNotFound node name)), g)
    | some port =>
      match port.setDefault value with
      | .error e => (.error (.backend (.portValue e)), g)
      | .ok written => (.ok (), g.modifyNode node (·.replaceInput port written))

/-- Joins the output of one node to the input of another that have the names given. -/
def linkNamed (source : NodeId) (output : String) (target : NodeId) (input : String) (g : Graph) :
    Except Refusal Unit × Graph :=
  match (g.node? source).bind (·.output? output) with
  | none => (.error (.backend (.portNotFound source output)), g)
  | some sourcePort =>
    match (g.node? target).bind (·.input? input) with
    | none => (.error (.backend (.portNotFound target input)), g)
    | some targetPort =>
      match g.connect source sourcePort.id target targetPort.id with
      | .error e => (.error (.backend (.connection e)), g)
      | .ok g => (.ok (), g)

/-- Answers a request. -/
def answer : (request : Request NodeId FrameId) → Graph → Except Refusal request.Answer × Graph
  | .ensureReady, g => (g.ready, g)
  | .createNode kind, g =>
    let node := g.newNode kind.nodeType
    (.ok node.id, g.addNode node)
  | .nodeLayout node, g =>
    ((g.node? node).elim (.error (.unknownNode node)) fun n => .ok ⟨n.position, n.width⟩, g)
  | .setPosition node position, g => changeNode node (fun n => { n with position := position }) g
  | .setOperation node operation, g =>
    changeNode node (fun n => { n with operation := some operation }) g
  | .setInputKind node slot kind, g =>
    changeNode node (fun n => { n with inputKinds := n.inputKinds.set slot kind }) g
  | .setInputValue node socket value, g => writeInput node socket.name value g
  | .connect source output target input, g => linkNamed source output.name target input.name g
  | .createFrame label, g =>
    let frame := g.newFrame label
    (.ok frame.id, g.addFrame frame)
  | .assignToFrame node frame, g =>
    match g.setParent node frame with
    | .error e => (.error (.backend e), g)
    | .ok g => (.ok (), g)

/-- The graph as a sink. -/
def sink : GraphSink Graph NodeId FrameId GraphError := ⟨answer, tagUpdate⟩

end FormulaChain.Graph
