import FormulaChain.Graph.Error
import FormulaChain.Graph.Node

/-!
# Graphs

A graph has nodes, connections between their ports, and frames that nodes are put into. Nothing is
ever removed: a node can only be replaced by one with the same identity.

New things are known by numbers that are not in use. Where these come from is left open
(`IdentitySupply`); a program that runs counts on from the numbers in use.
-/

namespace FormulaChain

/-- A connection from an output of one node to an input of another. -/
structure Connection where
  /-- What it is known by. -/
  id : ConnectionId
  /-- The node it leaves. -/
  source : NodeId
  /-- The output it leaves by. -/
  sourcePort : PortId
  /-- The node it enters. -/
  target : NodeId
  /-- The input it enters by. -/
  targetPort : PortId
  deriving DecidableEq

/-- The numbers in a connection. -/
def Connection.numbers (c : Connection) : List Nat :=
  [c.id.number, c.source.number, c.sourcePort.number, c.target.number, c.targetPort.number]

/-- A labelled frame; its nodes are those that have it as their parent. -/
structure Frame where
  /-- What it is known by. -/
  id : FrameId
  /-- The text in its header. -/
  label : String
  deriving DecidableEq

/-- A graph of nodes. -/
structure Graph where
  /-- The name of the graph. -/
  name : String
  /-- What it computes. -/
  kind : GraphKind
  /-- The nodes in the order they were added. -/
  nodes : Table NodeId Node
  /-- The connections in the order they were made. -/
  connections : Table ConnectionId Connection
  /-- The frames in the order they were added. -/
  frames : Table FrameId Frame
  /-- How often the graph was refreshed. -/
  revision : Nat
  deriving DecidableEq

namespace Graph

/-- A graph without nodes. -/
def empty (name : String) (kind : GraphKind) : Graph := ⟨name, kind, .empty, .empty, .empty, 0⟩

/-- The graph that a program starts with. -/
def default : Graph := empty "Geometry Nodes" .geometry

/-- All numbers in use, also those that only refer to something. -/
def numbers (g : Graph) : List Nat :=
  g.nodes.keys.map (·.number) ++ g.nodes.values.flatMap Node.numbers ++
    g.connections.keys.map (·.number) ++ g.connections.values.flatMap Connection.numbers ++
    g.frames.keys.map (·.number) ++ g.frames.values.map (·.id.number)

/-- A number greater than all in use. -/
def freshNumber (g : Graph) : Nat := g.numbers.foldl max 0 + 1

theorem lt_freshNumber {g : Graph} {n : Nat} (h : n ∈ g.numbers) : n < g.freshNumber := by
  have hmax : n ≤ g.numbers.max?.getD 0 := List.le_max?_getD_of_mem h
  unfold freshNumber
  rw [List.foldl_max]
  omega

end Graph

/-- Where the numbers of new things come from: numbers that a graph does not use. What they are for
is then added to the graph, so that no graph is given numbers twice. -/
class IdentitySupply where
  /-- The numbers for the next thing and its parts. -/
  next : Graph → Numbering
  /-- The graph does not use them. -/
  unused : ∀ g i, (next g).number i ∉ g.numbers

/-- Counting on from the numbers in use. -/
instance : IdentitySupply where
  next g := g.freshNumber
  unused g i h := by
    have hlt : g.freshNumber + i < g.freshNumber := Graph.lt_freshNumber h
    omega

namespace Graph

variable [IdentitySupply]

/-- The numbers for the next thing that is added. -/
def nextNumbers (g : Graph) : Numbering := IdentitySupply.next g

/-! ### Nodes -/

/-- The node with an identity. -/
def node? (g : Graph) (id : NodeId) : Option Node := g.nodes.get? id

/-- Adds a node, or puts it in the place of the one with its identity. -/
def addNode (g : Graph) (node : Node) : Graph := { g with nodes := g.nodes.insert node.id node }

/-- A new node of a type, known by numbers that the graph does not use. -/
def newNode (g : Graph) (type : NodeType) : Node := .ofType type g.nextNumbers

/-- Changes a node, if it is there. -/
def modifyNode (g : Graph) (id : NodeId) (f : Node → Node) : Graph :=
  { g with nodes := g.nodes.modify id f }

/-! ### Connections -/

/-- The connections into a node. -/
def connectionsTo (g : Graph) (node : NodeId) : List Connection :=
  g.connections.values.filter (·.target = node)

/-- Whether some connection enters a port. -/
def isTarget (g : Graph) (port : PortId) : Bool := g.connections.values.any (·.targetPort = port)

/-- The node with an identity, which must be there. -/
def requireNode (g : Graph) (id : NodeId) : Except ConnectionError Node :=
  (g.node? id).elim (.error (.nodeNotFound id)) .ok

/-- The port of a node with an identity, which must be there. -/
def requirePort (n : Node) (id : PortId) : Except ConnectionError Port :=
  (n.port? id).elim (.error (.portNotFound id)) .ok

/-- A new connection between two ports, or why they cannot be connected: both nodes are looked for
before the ports, then the ports must fit, the target must be free, and the nodes must differ. -/
def checkConnection (g : Graph) (source : NodeId) (sourcePort : PortId) (target : NodeId)
    (targetPort : PortId) : Except ConnectionError Connection := do
  let sourceNode ← g.requireNode source
  let targetNode ← g.requireNode target
  let output ← requirePort sourceNode sourcePort
  let input ← requirePort targetNode targetPort
  if output.direction ≠ .output ∨ !output.canConnect input then throw .incompatiblePorts
  if !input.acceptsMany ∧ g.isTarget targetPort then throw (.portAlreadyConnected targetPort)
  if source = target then throw .selfLoop
  return ⟨⟨g.nextNumbers.first⟩, source, sourcePort, target, targetPort⟩

/-- Connects two ports, if they can be connected. -/
def connect (g : Graph) (source : NodeId) (sourcePort : PortId) (target : NodeId)
    (targetPort : PortId) : Except ConnectionError Graph := do
  let c ← g.checkConnection source sourcePort target targetPort
  return { g with connections := g.connections.insert c.id c }

/-! ### Frames -/

/-- The frame with an identity. -/
def frame? (g : Graph) (id : FrameId) : Option Frame := g.frames.get? id

/-- A frame with a label, known by a number that the graph does not use. -/
def newFrame (g : Graph) (label : String) : Frame := ⟨⟨g.nextNumbers.first⟩, label⟩

/-- Adds a frame. -/
def addFrame (g : Graph) (frame : Frame) : Graph :=
  { g with frames := g.frames.insert frame.id frame }

/-- Puts a node into a frame; the frame is looked for first. -/
def setParent (g : Graph) (node : NodeId) (frame : FrameId) : Except GraphError Graph :=
  if !g.frames.contains frame then .error (.frameNotFound frame)
  else if !g.nodes.contains node then .error (.nodeNotFound node)
  else .ok (g.modifyNode node fun n => { n with parent := some frame })

/-- The nodes in a frame. -/
def nodesInFrame (g : Graph) (frame : FrameId) : List Node :=
  g.nodes.values.filter (·.parent = some frame)

/-- Counts a refresh. -/
def tagUpdate (g : Graph) : Graph := { g with revision := g.revision + 1 }

/-- How much the graph holds: nodes, connections, frames and refreshes. -/
def counts (g : Graph) : List Nat :=
  [g.nodes.size, g.connections.size, g.frames.size, g.revision]

end Graph

end FormulaChain
