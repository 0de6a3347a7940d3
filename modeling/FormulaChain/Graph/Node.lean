import FormulaChain.Graph.Port
import FormulaChain.Table

/-!
# Nodes and node types

A node is made from a node type: it gets ports of its own, modelled on those of the type, and keeps
the type's identifier. A registry holds the types that are known.
-/

namespace FormulaChain

/-- What nodes of one type have in common. -/
structure NodeType where
  /-- The identifier of the type. -/
  id : String
  /-- The name shown. -/
  name : String
  /-- What nodes of the type do. -/
  description : String
  /-- The width nodes of the type are drawn with. -/
  width : Single
  /-- The ports that the inputs of a node are modelled on. -/
  inputs : List Port
  /-- The ports that the outputs of a node are modelled on. -/
  outputs : List Port
  deriving DecidableEq

/-- A node of a graph. -/
structure Node where
  /-- What it is known by. -/
  id : NodeId
  /-- The identifier of its type. -/
  typeId : String
  /-- The name shown. -/
  name : String
  /-- Where it stands. -/
  position : Planar
  /-- The width it is drawn with. -/
  width : Single
  /-- The operation chosen. -/
  operation : Option Operation
  /-- The kind of input chosen for each slot. -/
  inputKinds : InputKinds
  /-- The frame around it. -/
  parent : Option FrameId
  /-- Where connections enter. -/
  inputs : List Port
  /-- Where connections leave. -/
  outputs : List Port
  deriving DecidableEq

namespace Node

/-- Ports modelled on others, known by the numbers from a place on. -/
def instantiatePorts (numbers : Numbering) (start : Nat) (ports : List Port) : List Port :=
  ports.mapIdx fun i p => p.instantiate ⟨numbers.number (start + i)⟩

/-- A new node of a type; it has the first number, and its ports have those that follow. -/
def ofType (type : NodeType) (numbers : Numbering) : Node where
  id := ⟨numbers.first⟩
  typeId := type.id
  name := type.name
  position := originPosition
  width := type.width
  operation := none
  inputKinds := .unset
  parent := none
  inputs := instantiatePorts numbers 1 type.inputs
  outputs := instantiatePorts numbers (1 + type.inputs.length) type.outputs

/-- All ports. -/
def ports (n : Node) : List Port := n.inputs ++ n.outputs

/-- The numbers in a node. -/
def numbers (n : Node) : List Nat :=
  n.id.number :: n.ports.map (·.id.number) ++ n.parent.toList.map (·.number)

/-- The port with an identity. -/
def port? (n : Node) (id : PortId) : Option Port := n.ports.find? (·.id = id)

/-- The first input with a name. -/
def input? (n : Node) (name : String) : Option Port := n.inputs.find? (·.name = name)

/-- The first output with a name. -/
def output? (n : Node) (name : String) : Option Port := n.outputs.find? (·.name = name)

/-- Puts a port in the place of an input. -/
def replaceInput (n : Node) (old new : Port) : Node :=
  { n with inputs := n.inputs.replace old new }

end Node

/-- Node types by their identifiers. -/
abbrev NodeRegistry := Table String NodeType

namespace NodeRegistry

/-- Enters a type, in the place of one with the same identifier. -/
def register (r : NodeRegistry) (type : NodeType) : NodeRegistry := r.insert type.id type

end NodeRegistry

end FormulaChain
