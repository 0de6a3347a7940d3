import FormulaChain.Graph.Node

/-!
# The node types of geometry graphs

The two attribute math nodes. After the geometry each operand has a port for an attribute name and
one for a literal; the vector node has one more port, for the number that its second operand can be.
The last input names the attribute that the result is written to. Both pass the geometry through.
-/

namespace FormulaChain

/-- A port of a node type; its identity is never looked at. -/
def modelPort (socket : Socket) (type : PortType) (value : Option SocketValue) : Port :=
  .input ⟨0⟩ socket.name type value

/-- The port for the attribute name of an operand. -/
def namedPort (slot : Slot) : Port := modelPort (.named slot) .text (some (.text ""))

/-- The port for the number of an operand. -/
def floatPort (slot : Slot) : Port := modelPort (.float slot) .float (some (.float .zero))

/-- The port for the vector of an operand. -/
def vectorPort (slot : Slot) : Port :=
  modelPort (.vector slot) .vector (some (.vector (.splat .zero)))

/-- The ports of an operand. -/
def operandPorts : NodeKind → Slot → List Port
  | .attributeMath, slot => [namedPort slot, floatPort slot]
  | .attributeVectorMath, .b => [namedPort .b, vectorPort .b, floatPort .b]
  | .attributeVectorMath, slot => [namedPort slot, vectorPort slot]

namespace NodeKind

/-- The inputs of a kind of node. -/
def inputPorts (kind : NodeKind) : List Port :=
  modelPort .geometry .geometry none :: Slot.all.flatMap (operandPorts kind) ++
    [modelPort .result .text (some (.text "Result"))]

/-- The type of the nodes of a kind. -/
def nodeType (kind : NodeKind) : NodeType where
  id := kind.typeId
  name := match kind with
    | .attributeMath => "Attribute Math"
    | .attributeVectorMath => "Attribute Vector Math"
  description := match kind with
    | .attributeMath => "Float math on attributes or constants"
    | .attributeVectorMath => "Vector math on attributes or constants"
  width := defaultNodeWidth
  inputs := kind.inputPorts
  outputs := [.output ⟨0⟩ geometrySocketName .geometry]

end NodeKind

/-- The types of geometry graphs. -/
def NodeRegistry.geometry : NodeRegistry :=
  NodeKind.all.foldl (fun r kind => r.register kind.nodeType) .empty

end FormulaChain
