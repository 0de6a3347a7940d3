import FormulaChain.Sink.Basic

/-!
# The recording sink

A sink in memory that keeps what it is asked for: nodes and frames are known by their number, links
and the values written into sockets are kept in order. It checks handles and nothing else.
-/

namespace FormulaChain

/-- A node as it was recorded. -/
structure RecordedNode where
  /-- The kind of the node. -/
  kind : NodeKind
  /-- The last position set. -/
  position : Planar
  /-- The width it is drawn with. -/
  width : Single
  /-- The operation, once set. -/
  operation : Option Operation
  /-- The input kinds, as far as they were set. -/
  inputKinds : InputKinds
  /-- The values written into sockets, in order. -/
  values : List (Socket × SocketValue)
  /-- The frame the node is in. -/
  frame : Option Nat
  deriving DecidableEq

namespace RecordedNode

/-- A fresh node. -/
def fresh (kind : NodeKind) (width : Single) : RecordedNode :=
  ⟨kind, originPosition, width, none, .unset, [], none⟩

/-- The last value written into a socket. -/
def value (node : RecordedNode) (socket : Socket) : Option SocketValue :=
  (node.values.reverse.find? (·.1 = socket)).map (·.2)

end RecordedNode

/-- A link from an output of one node to an input of another. -/
structure RecordedLink where
  /-- Number of the node the link leaves. -/
  source : Nat
  /-- The output it leaves by. -/
  output : OutputSocket
  /-- Number of the node the link enters. -/
  target : Nat
  /-- The input it enters by. -/
  input : Socket
  deriving DecidableEq

/-- What was recorded. -/
structure Recording where
  /-- The nodes in the order of their creation. -/
  nodes : List RecordedNode
  /-- The links in order. -/
  links : List RecordedLink
  /-- The labels of the frames in the order of their creation. -/
  frames : List String
  /-- How often the graph was refreshed. -/
  refreshes : Nat
  deriving DecidableEq

/-- The failures of a recording sink: it has none of its own. -/
abbrev RecordingError := SinkError Nat Nat Empty

namespace Recording

/-- Nothing recorded. -/
def empty : Recording := ⟨[], [], [], 0⟩

/-- How much was recorded: nodes, links, frames and refreshes. -/
def counts (r : Recording) : List Nat :=
  [r.nodes.length, r.links.length, r.frames.length, r.refreshes]

/-- Changes a node that is there. -/
def change (node : Nat) (f : RecordedNode → RecordedNode) (r : Recording) :
    Except RecordingError Unit × Recording :=
  if node < r.nodes.length then (.ok (), { r with nodes := r.nodes.modify node f })
  else (.error (.unknownNode node), r)

/-- The layout of a node. -/
def layout (r : Recording) (node : Nat) : Except RecordingError NodeLayout :=
  match r.nodes[node]? with
  | some n => .ok ⟨n.position, n.width⟩
  | none => .error (.unknownNode node)

/-- Records a link between two nodes that are there. -/
def link (source : Nat) (output : OutputSocket) (target : Nat) (input : Socket) (r : Recording) :
    Except RecordingError Unit × Recording :=
  if r.nodes.length ≤ source then (.error (.unknownNode source), r)
  else if r.nodes.length ≤ target then (.error (.unknownNode target), r)
  else (.ok (), { r with links := r.links ++ [⟨source, output, target, input⟩] })

/-- Puts a node into a frame; the frame is looked at first. -/
def assign (node frame : Nat) (r : Recording) : Except RecordingError Unit × Recording :=
  if r.frames.length ≤ frame then (.error (.unknownFrame frame), r)
  else change node (fun n => { n with frame := some frame }) r

/-- Answers a request; `width` is that of the next node. -/
def answer (width : Single) : (request : Request Nat Nat) → Recording →
    Except RecordingError request.Answer × Recording
  | .ensureReady, r => (.ok (), r)
  | .createNode kind, r =>
    (.ok r.nodes.length, { r with nodes := r.nodes ++ [.fresh kind width] })
  | .nodeLayout node, r => (r.layout node, r)
  | .setPosition node position, r => change node (fun n => { n with position := position }) r
  | .setOperation node operation, r =>
    change node (fun n => { n with operation := some operation }) r
  | .setInputKind node slot kind, r =>
    change node (fun n => { n with inputKinds := n.inputKinds.set slot kind }) r
  | .setInputValue node socket value, r =>
    change node (fun n => { n with values := n.values ++ [(socket, value)] }) r
  | .connect source output target input, r => link source output target input r
  | .createFrame label, r => (.ok r.frames.length, { r with frames := r.frames ++ [label] })
  | .assignToFrame node frame, r => assign node frame r

/-- Counts a refresh. -/
def refresh (r : Recording) : Recording := { r with refreshes := r.refreshes + 1 }

/-- The recording sink. -/
def sink : GraphSink Recording Nat Nat Empty := ⟨answer defaultNodeWidth, refresh⟩

/-- The last value written into a socket of a node. -/
def value (r : Recording) (node : Nat) (socket : Socket) : Option SocketValue :=
  r.nodes[node]?.bind (·.value socket)

/-! ### Nodes of other widths -/

/-- The sum of two points. -/
def translate (p q : Planar) : Planar := (p.1 + q.1, p.2 + q.2)

/-- A recording sink of a graph in which the nodes created first have the widths given, and which
shows every node displaced by an offset. -/
def sinkWithLayout (widths : List Single) (offset : Planar) :
    GraphSink Recording Nat Nat Empty where
  perform
    | .nodeLayout node, r =>
      ((r.layout node).map fun l => { l with position := translate l.position offset }, r)
    | request, r => answer (widths.getD r.nodes.length defaultNodeWidth) request r
  refresh := refresh

end Recording

end FormulaChain
