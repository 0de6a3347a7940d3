import FormulaChain.Graph.Basic
import FormulaChain.Storage.Compilation

/-!
# Stored graphs

How node types, nodes, connections, frames and whole graphs are stored. In a graph the parts stand
under their identities.
-/

namespace FormulaChain

open Storable

instance : Storable PortDirection := ofNames [.input, .output] PortDirection.text
instance : Storable PortType := ofNames PortType.all PortType.name
instance : Storable GraphKind := ofNames [.geometry, .shader] GraphKind.text

/-- The default value of a port, which is stored under the name of its type. -/
structure PortValue where
  /-- The value. -/
  value : SocketValue
  deriving DecidableEq

instance : Storable PortValue where
  shape := .choice [variant "Float" Single, variant "Vector3" Triple, variant "String" String]
  store v := .holding v.value.portType.name <|
    match v.value with
    | .float s => store s
    | .vector t => store t
    | .text s => store s
  restore?
    | .holding "Float" d => (restore? d).map fun s => ⟨.float s⟩
    | .holding "Vector3" d => (restore? d).map fun t => ⟨.vector t⟩
    | .holding "String" d => (restore? d).map fun s => ⟨.text s⟩
    | _ => none

instance : Storable Port where
  shape := .record "Port" [field "id" PortId, field "name" String, field "direction" PortDirection,
    field "port_type" PortType, field "default_value" (Option PortValue),
    field "multi_connect" Bool]
  store p := .record [("id", store p.id), ("name", store p.name), ("direction", store p.direction),
    ("port_type", store p.type), ("default_value", store (p.defaultValue.map PortValue.mk)),
    ("multi_connect", store p.acceptsMany)]
  restore?
    | .record [(_, id), (_, name), (_, direction), (_, type), (_, value), (_, acceptsMany)] => do
      let value : Option PortValue ← restore? value
      return {
        id := ← restore? id
        name := ← restore? name
        direction := ← restore? direction
        type := ← restore? type
        defaultValue := value.map (·.value)
        acceptsMany := ← restore? acceptsMany }
    | _ => none

instance : Storable NodeType where
  shape := .record "NodeType" [field "id" String, field "name" String, field "description" String,
    field "width" Single, field "inputs" (List Port), field "outputs" (List Port)]
  store t := .record [("id", store t.id), ("name", store t.name),
    ("description", store t.description), ("width", store t.width), ("inputs", store t.inputs),
    ("outputs", store t.outputs)]
  restore?
    | .record [(_, id), (_, name), (_, description), (_, width), (_, inputs), (_, outputs)] => do
      return ⟨← restore? id, ← restore? name, ← restore? description, ← restore? width,
        ← restore? inputs, ← restore? outputs⟩
    | _ => none

instance : Storable InputKinds where
  shape := .array 3 (shape (Option InputKind))
  store k := .array (k.toList.map store)
  restore?
    | .array [a, b, c] => do return ⟨← restore? a, ← restore? b, ← restore? c⟩
    | _ => none

instance : Storable Node where
  shape := .record "Node" [field "id" NodeId, field "node_type" String, field "name" String,
    field "position" Planar, field "width" Single, field "operation" (Option Operation),
    field "input_types" InputKinds, field "parent" (Option FrameId), field "inputs" (List Port),
    field "outputs" (List Port)]
  store n := .record [("id", store n.id), ("node_type", store n.typeId), ("name", store n.name),
    ("position", store n.position), ("width", store n.width), ("operation", store n.operation),
    ("input_types", store n.inputKinds), ("parent", store n.parent), ("inputs", store n.inputs),
    ("outputs", store n.outputs)]
  restore?
    | .record [(_, id), (_, typeId), (_, name), (_, position), (_, width), (_, operation),
        (_, inputKinds), (_, parent), (_, inputs), (_, outputs)] => do
      return {
        id := ← restore? id
        typeId := ← restore? typeId
        name := ← restore? name
        position := ← restore? position
        width := ← restore? width
        operation := ← restore? operation
        inputKinds := ← restore? inputKinds
        parent := ← restore? parent
        inputs := ← restore? inputs
        outputs := ← restore? outputs }
    | _ => none

instance : Storable Connection where
  shape := .record "Connection" [field "id" ConnectionId, field "from_node" NodeId,
    field "from_port" PortId, field "to_node" NodeId, field "to_port" PortId]
  store c := .record [("id", store c.id), ("from_node", store c.source),
    ("from_port", store c.sourcePort), ("to_node", store c.target), ("to_port", store c.targetPort)]
  restore?
    | .record [(_, id), (_, source), (_, sourcePort), (_, target), (_, targetPort)] => do
      return ⟨← restore? id, ← restore? source, ← restore? sourcePort, ← restore? target,
        ← restore? targetPort⟩
    | _ => none

instance : Storable Frame where
  shape := .record "Frame" [field "id" FrameId, field "label" String]
  store f := .record [("id", store f.id), ("label", store f.label)]
  restore?
    | .record [(_, id), (_, label)] => do return ⟨← restore? id, ← restore? label⟩
    | _ => none

instance : Storable Graph where
  shape := .record "Graph" [field "name" String, field "kind" GraphKind,
    field "nodes" (Table NodeId Node), field "connections" (Table ConnectionId Connection),
    field "frames" (Table FrameId Frame), field "revision" Nat]
  store g := .record [("name", store g.name), ("kind", store g.kind), ("nodes", store g.nodes),
    ("connections", store g.connections), ("frames", store g.frames),
    ("revision", store g.revision)]
  restore?
    | .record [(_, name), (_, kind), (_, nodes), (_, connections), (_, frames), (_, revision)] => do
      return ⟨← restore? name, ← restore? kind, ← restore? nodes, ← restore? connections,
        ← restore? frames, ← restore? revision⟩
    | _ => none

end FormulaChain
