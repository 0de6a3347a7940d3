import FormulaChain.Node.Socket

/-!
# Sinks

A sink is a node graph seen from a compiler: it answers requests to create, place, set and link
nodes, and changes its state as it does. A request that fails gives the reason and may be issued by
anyone, not only by a compiler. Any type of state can be a sink, with node and frame handles and
failures of its own.
-/

namespace FormulaChain

/-- A request to a sink with node handles `N` and frame handles `F`. -/
inductive Request (N F : Type) where
  /-- Whether nodes of formulas are accepted at all. -/
  | ensureReady
  /-- A new node. -/
  | createNode (kind : NodeKind)
  /-- Where a node stands and how wide it is. -/
  | nodeLayout (node : N)
  /-- A node is moved. -/
  | setPosition (node : N) (position : Planar)
  /-- The operation of a node is chosen. -/
  | setOperation (node : N) (operation : Operation)
  /-- The input kind of a slot is chosen. -/
  | setInputKind (node : N) (slot : Slot) (kind : InputKind)
  /-- A default value is written into an input socket. -/
  | setInputValue (node : N) (socket : Socket) (value : SocketValue)
  /-- An output of one node is linked to an input of another. -/
  | connect (source : N) (output : OutputSocket) (target : N) (input : Socket)
  /-- A new frame with a label. -/
  | createFrame (label : String)
  /-- A node is put into a frame. -/
  | assignToFrame (node : N) (frame : F)
  deriving DecidableEq

/-- What a sink gives back for a request it accepts. -/
def Request.Answer {N F : Type} : Request N F → Type
  | .createNode _ => N
  | .nodeLayout _ => NodeLayout
  | .createFrame _ => F
  | _ => Unit

/-- Why a sink refuses a request; `E` are the failures of the graph behind it. -/
inductive SinkError (N F E : Type) where
  /-- No node has the handle. -/
  | unknownNode (node : N)
  /-- No frame has the handle. -/
  | unknownFrame (frame : F)
  /-- A node of this kind has no such socket. -/
  | missingSocket (kind : NodeKind) (socket : String)
  /-- The graph takes no nodes of formulas. -/
  | unsupported (reason : E)
  /-- Any other failure of the graph. -/
  | backend (error : E)
  deriving DecidableEq

/-- The text of a refusal, handles and failures of the graph being written by the functions given.
-/
def SinkError.message {N F E : Type} (node : N → String) (frame : F → String)
    (failure : E → String) : SinkError N F E → String
  | .unknownNode n => "unknown node " ++ node n
  | .unknownFrame f => "unknown frame " ++ frame f
  | .missingSocket kind socket => kind.text ++ " node has no socket `" ++ socket ++ "`"
  | .unsupported reason => "graph does not accept formula nodes: " ++ failure reason
  | .backend error => failure error

/-- A sink with states `σ`. -/
structure GraphSink (σ N F E : Type) where
  /-- Answers a request, or refuses it. -/
  perform : (request : Request N F) → σ → Except (SinkError N F E) request.Answer × σ
  /-- What is done once after a build; it cannot fail. -/
  refresh : σ → σ

/-- A sequence of requests that stops at the first refusal; the state is that after the last request
issued, refused or not. -/
abbrev SinkRun (σ N F E : Type) := ExceptT (SinkError N F E) (StateM σ)

namespace GraphSink

variable {σ N F E : Type}

/-- Issues one request. -/
def call (sink : GraphSink σ N F E) (request : Request N F) : SinkRun σ N F E request.Answer :=
  sink.perform request

/-- Refreshes the graph. -/
def callRefresh (sink : GraphSink σ N F E) : SinkRun σ N F E Unit :=
  modify sink.refresh

end GraphSink

end FormulaChain
