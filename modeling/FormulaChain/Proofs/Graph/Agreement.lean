import FormulaChain.Graph.Sink
import FormulaChain.Proofs.Graph.Node
import FormulaChain.Sink.Recording
import Mathlib.Data.List.Nodup

/-!
# A node and what is recorded of it

A node of a graph may be as a recording sink would have recorded it (`NodeAgrees`): it has the type,
the name and the ports of its kind, the position, operation and kinds of input that were set last,
and as default values of its inputs what was written last. A new node is as a fresh one is recorded
(`nodeAgrees_new`), and what is changed on both sides in the same way agrees again.
-/

namespace FormulaChain.Graph

/-- The default value that a kind of node has for a socket, if it has the socket. -/
def defaultValue? (kind : NodeKind) (socket : Socket) : Option (Option SocketValue) :=
  (kind.nodeType.inputs.find? (·.name = socket.name)).map (·.defaultValue)

/-- A node is as it was recorded; `frames` are the frames of the graph. -/
structure NodeAgrees (frames : List FrameId) (entry : NodeId × Node) (m : RecordedNode) :
    Prop where
  /-- It is filed under its identity. -/
  id : entry.2.id = entry.1
  /-- It has the type of the kind. -/
  typeId : entry.2.typeId = m.kind.typeId
  /-- It shows the name of the kind. -/
  name : entry.2.name = m.kind.nodeType.name
  /-- It has the ports of the kind. -/
  ports : entry.2.IsOfKind m.kind
  /-- It stands where it was put last. -/
  position : entry.2.position = m.position
  /-- It has its width. -/
  width : entry.2.width = m.width
  /-- It performs the operation chosen last. -/
  operation : entry.2.operation = m.operation
  /-- The kinds of input are those chosen last. -/
  inputKinds : entry.2.inputKinds = m.inputKinds
  /-- It lies in a frame exactly if it was put there last. -/
  frame : ∀ k, m.frame = some k ↔ ∃ frame, frames[k]? = some frame ∧ entry.2.parent = some frame
  /-- It lies in no other frame. -/
  parent : ∀ frame, entry.2.parent = some frame → frame ∈ frames
  /-- Each input has the value written last, or else the default value of the kind. -/
  value : ∀ socket, (entry.2.input? socket.name).map (·.defaultValue) =
    (defaultValue? m.kind socket).map fun value => (m.value socket).or value

/-! ### Changes -/

/-- The value of a socket is the one written last. -/
theorem value_concat (m : RecordedNode) (socket socket' : Socket) (value : SocketValue) :
    ({ m with values := m.values ++ [(socket, value)] } : RecordedNode).value socket' =
      if socket = socket' then some value else m.value socket' := by
  by_cases h : socket = socket'
  · simp [RecordedNode.value, h]
  · simp [RecordedNode.value, h]

/-- A default value is written on both sides. -/
theorem NodeAgrees.setValue {frames : List FrameId} {id : NodeId} {n : Node} {m : RecordedNode}
    (h : NodeAgrees frames (id, n) m) {socket : Socket} {port : Port} {value : SocketValue}
    (hport : n.input? socket.name = some port) :
    NodeAgrees frames (id, n.replaceInput port { port with defaultValue := some value })
      { m with values := m.values ++ [(socket, value)] } := by
  have hname : port.name = socket.name := by simpa using List.find?_some hport
  refine { h with ports := ?_, value := fun socket' => ?_ }
  · exact h.ports.of_outline (n.outline_replaceInput rfl)
  · have hvalue := h.value socket'
    rw [value_concat]
    by_cases hs : socket = socket'
    · subst hs
      have hfind : (n.replaceInput port { port with defaultValue := some value }).input?
          socket.name = some { port with defaultValue := some value } :=
        find?_replace_of_find? hport (by simpa using hname)
      obtain ⟨old, hold, -⟩ := Option.map_eq_some_iff.mp
        (hvalue.symm.trans (congrArg (Option.map Port.defaultValue) hport))
      rw [hfind, hold, if_pos rfl]
      rfl
    · have hne : ¬ port.name = socket'.name :=
        fun heq => hs (Socket.name_injective (hname.symm.trans heq))
      have hfind : (n.replaceInput port { port with defaultValue := some value }).input?
          socket'.name = n.input? socket'.name :=
        find?_replace_of_neg (by simpa using hne) (by simpa using hne) n.inputs
      rw [hfind, if_neg hs]
      exact hvalue

/-- A node is put into a frame on both sides. -/
theorem NodeAgrees.setFrame {frames : List FrameId} {id : NodeId} {n : Node} {m : RecordedNode}
    (h : NodeAgrees frames (id, n) m) (hnodup : frames.Nodup) {frame : FrameId} {k : Nat}
    (hk : frames[k]? = some frame) :
    NodeAgrees frames (id, { n with parent := some frame }) { m with frame := some k } := by
  refine { h with frame := fun k' => ?_, parent := ?_ }
  · constructor
    · rintro ⟨⟩
      exact ⟨frame, hk, rfl⟩
    · rintro ⟨_, hk', ⟨⟩⟩
      have hlt : k < frames.length := (List.getElem?_eq_some_iff.mp hk).1
      exact congrArg some ((List.getElem?_inj hlt hnodup).mp (hk.trans hk'.symm))
  · rintro _ ⟨⟩
    exact List.mem_of_getElem? hk

/-! ### New nodes and frames -/

/-- A node is made on both sides. -/
theorem nodeAgrees_new (frames : List FrameId) (kind : NodeKind) (numbers : Numbering) :
    NodeAgrees frames (⟨numbers.first⟩, .ofType kind.nodeType numbers)
      (.fresh kind defaultNodeWidth) where
  id := rfl
  typeId := rfl
  name := rfl
  ports := Node.isOfKind_ofType kind numbers
  position := rfl
  width := rfl
  operation := rfl
  inputKinds := rfl
  frame _ := by simp [RecordedNode.fresh, Node.ofType]
  parent _ h := by cases h
  value socket := by
    have hkind : defaultValue? kind socket =
        ((Node.ofType kind.nodeType numbers).input? socket.name).map (·.defaultValue) :=
      (Node.find?_instantiatePorts Port.defaultValue (fun _ _ => rfl) _ _ _ _).symm
    show _ = (defaultValue? kind socket).map fun value => value
    rw [Option.map_id', hkind]

/-- More frames change nothing for a node. -/
theorem NodeAgrees.addFrame {frames : List FrameId} {entry : NodeId × Node} {m : RecordedNode}
    (h : NodeAgrees frames entry m) {frame : FrameId} (hnew : frame ∉ frames) :
    NodeAgrees (frames ++ [frame]) entry m := by
  refine { h with frame := fun k => ?_, parent := fun f hf => ?_ }
  · rw [h.frame k]
    constructor
    · rintro ⟨f, hk, hf⟩
      have hlt : k < frames.length := (List.getElem?_eq_some_iff.mp hk).1
      exact ⟨f, by rw [List.getElem?_append_left hlt, hk], hf⟩
    · rintro ⟨f, hk, hf⟩
      refine ⟨f, ?_, hf⟩
      by_cases hlt : k < frames.length
      · rwa [List.getElem?_append_left hlt] at hk
      · rw [List.getElem?_append_right (Nat.le_of_not_lt hlt)] at hk
        have hlast : f = frame := List.mem_singleton.mp (List.mem_of_getElem? hk)
        exact absurd (h.parent f hf) (hlast ▸ hnew)
  · exact List.mem_append_left _ (h.parent f hf)

end FormulaChain.Graph
