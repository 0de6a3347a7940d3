import FormulaChain.Graph.Port
import FormulaChain.Text.Identity

/-!
# Refusals of a graph

Why an edit of a graph is refused. The texts name nodes, ports and frames by their identities, for
which a reader of messages may put names of its own.
-/

namespace FormulaChain

/-- What a graph computes. -/
inductive GraphKind where
  /-- Geometry with attributes. -/
  | geometry
  /-- Shading. -/
  | shader
  deriving DecidableEq

/-- The name of a kind of graph. -/
def GraphKind.text : GraphKind → String
  | .geometry => "Geometry"
  | .shader => "Shader"

/-- Why two ports cannot be connected. -/
inductive ConnectionError where
  /-- No node has the identity. -/
  | nodeNotFound (node : NodeId)
  /-- The node has no port with the identity. -/
  | portNotFound (port : PortId)
  /-- The directions or types do not fit. -/
  | incompatiblePorts
  /-- Another connection enters the port. -/
  | portAlreadyConnected (port : PortId)
  /-- Both ends are on one node. -/
  | selfLoop
  deriving DecidableEq

/-- Why an edit is refused. -/
inductive GraphError where
  /-- No node has the identity. -/
  | nodeNotFound (node : NodeId)
  /-- No frame has the identity. -/
  | frameNotFound (frame : FrameId)
  /-- The node has no port with the name, or is not there itself. -/
  | portNotFound (node : NodeId) (port : String)
  /-- A default value does not fit its port. -/
  | portValue (error : PortValueError)
  /-- Two ports cannot be connected. -/
  | connection (error : ConnectionError)
  /-- The kind of graph has no attribute math nodes. -/
  | unsupportedKind (kind : GraphKind)
  deriving DecidableEq

/-- Why the nodes of a graph cannot be ordered. -/
inductive OrderError where
  /-- Some node depends on itself. -/
  | cycle
  deriving DecidableEq

/-- The text of a graph that cannot be ordered. -/
def OrderError.message : OrderError → String
  | .cycle => "Graph contains a cycle"

/-- How messages name the parts of a graph. -/
structure GraphNames where
  /-- The name of a node. -/
  node : NodeId → String
  /-- The name of a port. -/
  port : PortId → String
  /-- The name of a frame. -/
  frame : FrameId → String

/-- The parts of a graph named by the texts of their identities. -/
def GraphNames.identities : GraphNames where
  node id := Text.identityText id.number
  port id := Text.identityText id.number
  frame id := Text.identityText id.number

/-- The text of a refused connection. -/
def ConnectionError.message (names : GraphNames) : ConnectionError → String
  | .nodeNotFound node => "Node not found: NodeId(" ++ names.node node ++ ")"
  | .portNotFound port => "Port not found: PortId(" ++ names.port port ++ ")"
  | .incompatiblePorts => "Incompatible ports"
  | .portAlreadyConnected port => "Port already connected: PortId(" ++ names.port port ++ ")"
  | .selfLoop => "Self-loop not allowed"

/-- The text of a refused edit. -/
def GraphError.message (names : GraphNames) : GraphError → String
  | .nodeNotFound node => "Node not found: NodeId(" ++ names.node node ++ ")"
  | .frameNotFound frame => "Frame not found: FrameId(" ++ names.frame frame ++ ")"
  | .portNotFound node port =>
    "Node NodeId(" ++ names.node node ++ ") has no port `" ++ port ++ "`"
  | .portValue error => error.message
  | .connection error => error.message names
  | .unsupportedKind kind => kind.text ++ " graphs do not support attribute math nodes"

end FormulaChain
