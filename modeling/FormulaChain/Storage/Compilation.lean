import FormulaChain.Build
import FormulaChain.Storage.Storable

/-!
# Stored compilations

How operations, operands, bindings and whole outputs of a compilation are stored.
-/

namespace FormulaChain

open Storable

instance : Storable Domain := ofNames [.scalar, .vector] Domain.text
instance : Storable ScalarOperation := ofNames ScalarOperation.all ScalarOperation.id
instance : Storable VectorOperation := ofNames VectorOperation.all VectorOperation.id
instance : Storable Slot := ofNames Slot.all Slot.text
instance : Storable InputKind := ofNames InputKind.all InputKind.text
instance : Storable NodeKind := ofNames NodeKind.all NodeKind.text
instance : Storable Severity := ofNames [.warning, .error] Severity.text
instance : Storable DiagnosticKind := ofNames DiagnosticKind.all DiagnosticKind.text
instance : Storable BuildStatus := ofNames [.finished, .cancelled] BuildStatus.text
instance : Storable OutputSocket := ofNames [.geometry] OutputSocket.name

instance : Storable Operation where
  shape := .choice [variant "Math" ScalarOperation, variant "Vector" VectorOperation]
  store
    | .scalar o => .holding "Math" (store o)
    | .vector o => .holding "Vector" (store o)
  restore?
    | .holding "Math" d => (restore? d).map .scalar
    | .holding "Vector" d => (restore? d).map .vector
    | _ => none

instance : Storable Operand where
  shape := .choice [variant "Scalar" Single, variant "Vector" Triple, variant "Reference" String]
  store
    | .scalar s => .holding "Scalar" (store s)
    | .vector t => .holding "Vector" (store t)
    | .reference name => .holding "Reference" (store name)
  restore?
    | .holding "Scalar" d => (restore? d).map .scalar
    | .holding "Vector" d => (restore? d).map .vector
    | .holding "Reference" d => (restore? d).map .reference
    | _ => none

instance : Storable Socket where
  shape := .choice [("Geometry", none), variant "Attribute" Slot, variant "Float" Slot,
    variant "Vector" Slot, ("Result", none)]
  store
    | .geometry => .choice "Geometry"
    | .named slot => .holding "Attribute" (store slot)
    | .float slot => .holding "Float" (store slot)
    | .vector slot => .holding "Vector" (store slot)
    | .result => .choice "Result"
  restore?
    | .choice "Geometry" => some .geometry
    | .holding "Attribute" d => (restore? d).map .named
    | .holding "Float" d => (restore? d).map .float
    | .holding "Vector" d => (restore? d).map .vector
    | .choice "Result" => some .result
    | _ => none

instance : Storable SocketValue where
  shape := .choice [variant "Float" Single, variant "Vector" Triple, variant "Text" String]
  store
    | .float s => .holding "Float" (store s)
    | .vector t => .holding "Vector" (store t)
    | .text s => .holding "Text" (store s)
  restore?
    | .holding "Float" d => (restore? d).map .float
    | .holding "Vector" d => (restore? d).map .vector
    | .holding "Text" d => (restore? d).map .text
    | _ => none

instance : Storable NodeLayout where
  shape := .record "NodeLayout" [field "position" Planar, field "width" Single]
  store l := .record [("position", store l.position), ("width", store l.width)]
  restore?
    | .record [(_, position), (_, width)] => do return ⟨← restore? position, ← restore? width⟩
    | _ => none

instance : Storable Diagnostic where
  shape := .record "Diagnostic"
    [field "severity" Severity, field "kind" DiagnosticKind, field "message" String]
  store d := .record
    [("severity", store d.severity), ("kind", store d.kind), ("message", store d.message)]
  restore?
    | .record [(_, severity), (_, kind), (_, message)] => do
      return ⟨← restore? severity, ← restore? kind, ← restore? message⟩
    | _ => none

instance : Storable Binding where
  shape := .record "InputBinding"
    [field "slot" Slot, field "kind" InputKind, field "socket" Socket, field "value" SocketValue]
  store b := .record [("slot", store b.slot), ("kind", store b.kind), ("socket", store b.socket),
    ("value", store b.value)]
  restore?
    | .record [(_, slot), (_, kind), (_, socket), (_, value)] => do
      return ⟨← restore? slot, ← restore? kind, ← restore? socket, ← restore? value⟩
    | _ => none

instance {N : Type} [Storable N] : Storable (EmittedNode N) where
  shape := .record "EmittedNode" [field "handle" N, field "operation" Operation,
    field "args" (List Operand), field "bindings" (List Binding), field "result_name" String,
    field "sequence_index" Nat, field "position" Planar]
  store n := .record [("handle", store n.handle), ("operation", store n.operation),
    ("args", store n.args), ("bindings", store n.bindings), ("result_name", store n.resultName),
    ("sequence_index", store n.sequenceIndex), ("position", store n.position)]
  restore?
    | .record [(_, handle), (_, operation), (_, args), (_, bindings), (_, resultName),
        (_, sequenceIndex), (_, position)] => do
      return {
        handle := ← restore? handle
        operation := ← restore? operation
        args := ← restore? args
        bindings := ← restore? bindings
        resultName := ← restore? resultName
        sequenceIndex := ← restore? sequenceIndex
        position := ← restore? position }
    | _ => none

instance {N F : Type} [Storable N] [Storable F] : Storable (CompileOutput N F) where
  shape := .record "CompileOutput" [field "status" BuildStatus,
    field "nodes" (List (EmittedNode N)), field "diagnostics" (List Diagnostic),
    field "frame" (Option F)]
  store o := .record [("status", store o.status), ("nodes", store o.nodes),
    ("diagnostics", store o.diagnostics), ("frame", store o.frame)]
  restore?
    | .record [(_, status), (_, nodes), (_, diagnostics), (_, frame)] => do
      return {
        status := ← restore? status
        nodes := ← restore? nodes
        diagnostics := ← restore? diagnostics
        frame := ← restore? frame }
    | _ => none

end FormulaChain
