import FormulaChain.Proofs.Graph.Chain
import FormulaChain.Proofs.Node.Binding

/-!
# Emitting nodes into a graph

After some steps of a compilation, the nodes at the end of a geometry graph are those emitted
(`Emitted`): each is as a recording sink would have recorded the operator it carries out, and they
are linked to a chain. The graph accepts the next step and the final name of the last node, and is
of the same form after it (`runs_emitStep`, `runs_nameNodes`).

What was recorded says what the node holds in the end (`Carries`): each operand in the socket it is
bound to, the name in the socket of results, and what a new node has in the others.
-/

namespace FormulaChain.Graph

open SinkRun

/-- The node of an entry is the one that was emitted. The names given to its result in turn end with
the one it has; `frame` is the place of its frame among `frames`. -/
structure EmittedAs (frames : List FrameId) (frame : Option Nat) (node : EmittedNode NodeId)
    (entry : NodeId × Node) : Prop where
  /-- The handle is its identity. -/
  handle : entry.1 = node.handle
  /-- The operands are bound as the operation does. -/
  bindings : node.bindings = node.operation.bind node.args
  /-- It is as it was recorded. -/
  agrees : ∃ names, names.getLast? = some node.resultName ∧
    NodeAgrees frames entry (node.record names frame)

/-- A node carries out an operator that was emitted, with its operands and its name. -/
structure Carries (frame : Option FrameId) (node : EmittedNode NodeId) (entry : NodeId × Node) :
    Prop where
  /-- It is filed under the handle. -/
  handle : entry.1 = node.handle
  /-- The handle is its identity. -/
  id : entry.2.id = node.handle
  /-- It has the type of its kind. -/
  typeId : entry.2.typeId = node.kind.typeId
  /-- It shows the name of its kind. -/
  name : entry.2.name = node.kind.nodeType.name
  /-- It has the ports of its kind. -/
  ports : entry.2.IsOfKind node.kind
  /-- It stands where it was placed. -/
  position : entry.2.position = node.position
  /-- It is as wide as any. -/
  width : entry.2.width = defaultNodeWidth
  /-- It performs the operation. -/
  operation : entry.2.operation = some node.operation
  /-- The operands are bound as the operation does. -/
  bindings : node.bindings = node.operation.bind node.args
  /-- The kind of input of a slot is that of the operand bound to it, if there is one. -/
  inputKinds : ∀ slot, entry.2.inputKinds.get slot =
    (node.bindings.find? (·.slot = slot)).map (·.kind)
  /-- The operands are in the inputs that they are bound to. -/
  bound : ∀ b ∈ node.bindings, (entry.2.input? b.socket.name).map (·.defaultValue) =
    some (some b.value)
  /-- The name of the result is in the input for it. -/
  result : (entry.2.input? Socket.result.name).map (·.defaultValue) =
    some (some (.text node.resultName))
  /-- Any other input has the default value of the kind. -/
  unbound : ∀ socket, socket ≠ .result → (∀ b ∈ node.bindings, b.socket ≠ socket) →
    (entry.2.input? socket.name).map (·.defaultValue) = defaultValue? node.kind socket
  /-- It lies in the frame, if there is one. -/
  parent : entry.2.parent = frame

/-! ### What an emitted node holds -/

/-- A socket has the value that was written to it if no other was. -/
theorem value_eq_of_forall {m : RecordedNode} {socket : Socket} {value : SocketValue}
    (hmem : (socket, value) ∈ m.values) (h : ∀ v, (socket, v) ∈ m.values → v = value) :
    m.value socket = some value := by
  unfold RecordedNode.value
  cases hfind : m.values.reverse.find? (·.1 = socket) with
  | none => simpa using List.find?_eq_none.mp hfind _ (List.mem_reverse.mpr hmem)
  | some written =>
    have hsocket : written.1 = socket := by simpa using List.find?_some hfind
    subst hsocket
    exact congrArg some (h _ (List.mem_reverse.mp (List.mem_of_find?_eq_some hfind)))

namespace EmittedAs

variable {frames : List FrameId} {frame : Option Nat} {node : EmittedNode NodeId}
  {entry : NodeId × Node}

theorem ports (h : EmittedAs frames frame node entry) : entry.2.IsOfKind node.kind := by
  obtain ⟨names, -, hagrees⟩ := h.agrees
  exact hagrees.ports

/-- No operand is bound to the socket of results. -/
theorem socket_ne_result (h : EmittedAs frames frame node entry) {b : Binding}
    (hb : b ∈ node.bindings) : b.socket ≠ .result := by
  intro hresult
  have hslot := Operation.slot?_socket_of_mem_bind (h.bindings ▸ hb)
  rw [hresult] at hslot
  cases hslot

/-- What is recorded in the socket of a binding. -/
theorem value_record (h : EmittedAs frames frame node entry) {b : Binding}
    (hb : b ∈ node.bindings) (names : List String) :
    (node.record names frame).value b.socket = some b.value := by
  have hmem : b.written ∈ node.bindings.map Binding.written := List.mem_map_of_mem hb
  refine value_eq_of_forall (List.mem_append_left _ hmem) fun v hv => ?_
  rcases List.mem_append.mp hv with hbound | hname
  · obtain ⟨b', hb', hwritten⟩ := List.mem_map.mp hbound
    obtain ⟨hsocket, rfl⟩ := Prod.mk.inj hwritten
    have hnodup : (node.bindings.map (·.socket)).Nodup := by
      rw [h.bindings]
      exact node.operation.nodup_sockets_bind _
    rw [List.inj_on_of_nodup_map hnodup hb' hb hsocket]
  · obtain ⟨name, -, hwritten⟩ := List.mem_map.mp hname
    exact absurd (Prod.mk.inj hwritten).1.symm (h.socket_ne_result hb)

/-- Nothing is recorded in other sockets. -/
theorem value_record_of_unbound {socket : Socket} (hresult : socket ≠ .result)
    (h : ∀ b ∈ node.bindings, b.socket ≠ socket) (names : List String) :
    (node.record names frame).value socket = none := by
  rw [RecordedNode.value, Option.map_eq_none_iff, List.find?_eq_none]
  intro written hmem hsocket
  rcases List.mem_append.mp (List.mem_reverse.mp hmem) with hbound | hname
  · obtain ⟨b, hb, rfl⟩ := List.mem_map.mp hbound
    exact h b hb (of_decide_eq_true hsocket)
  · obtain ⟨name, -, rfl⟩ := List.mem_map.mp hname
    exact hresult (of_decide_eq_true hsocket).symm

/-- What was recorded last in a socket of the kind is the default value of the input. -/
theorem value_of_socketType? {socket : Socket} {type : PortType} {value : SocketValue}
    {names : List String} (hagrees : NodeAgrees frames entry (node.record names frame))
    (htype : node.kind.socketType? socket = some type)
    (hvalue : (node.record names frame).value socket = some value) :
    (entry.2.input? socket.name).map (·.defaultValue) = some (some value) := by
  obtain ⟨port, hport, -⟩ := Option.map_eq_some_iff.mp htype
  have hdefault : defaultValue? node.kind socket = some port.defaultValue :=
    congrArg (Option.map Port.defaultValue) hport
  rw [hagrees.value socket, hvalue]
  show (defaultValue? node.kind socket).map _ = _
  rw [hdefault]
  rfl

/-- **An emitted node carries out its operator**, in the frame that it was put into. -/
theorem carries {frame : Option FrameId}
    (h : EmittedAs frame.toList (frame.map fun _ => 0) node entry) :
    Carries frame node entry := by
  obtain ⟨names, hnames, hagrees⟩ := h.agrees
  refine ⟨h.handle, hagrees.id.trans h.handle, hagrees.typeId, hagrees.name, hagrees.ports,
    hagrees.position, hagrees.width, hagrees.operation, h.bindings, fun slot => ?_, fun b hb => ?_, ?_,
    fun socket hresult hunbound => ?_, ?_⟩
  · have hnodup : (node.bindings.map (·.slot)).Nodup := by
      rw [h.bindings]
      exact node.operation.nodup_slots_bind _
    rw [hagrees.inputKinds]
    exact InputKinds.get_choose_unset hnodup slot
  · exact value_of_socketType? hagrees (Operation.socketType?_of_mem_bind (h.bindings ▸ hb))
      (h.value_record hb names)
  · exact value_of_socketType? hagrees (NodeKind.socketType?_result _)
      (RecordedNode.value_result_record node hnames _)
  · rw [hagrees.value socket, value_record_of_unbound hresult hunbound]
    exact Option.map_id'
  · cases frame with
    | none =>
      rw [Option.eq_none_iff_forall_ne_some]
      exact fun frame hparent => absurd (hagrees.parent frame hparent) List.not_mem_nil
    | some frame =>
      obtain ⟨frame', hframe, hparent⟩ := (hagrees.frame 0).mp rfl
      cases hframe
      exact hparent

end EmittedAs

/-! ### Steps -/

/-- Emitted nodes, and perhaps frames, were added at the end of a graph; `frame` says at which place
among the new frames there is that of a node. The nodes are linked to a chain. -/
def Emitted (g₀ : Graph) (frames : List (FrameId × Frame))
    (frame : EmittedNode NodeId → Option Nat) (emitted : List (EmittedNode NodeId))
    (g : Graph) : Prop :=
  ∃ news links, Grown g₀ news links frames g ∧
    List.Forall₂ (fun node => EmittedAs (frames.map (·.1)) (frame node) node) emitted news ∧
    links.map (fun c => joined c.2) = chained news

/-- Emitted nodes that lie in no frame. -/
abbrev Unframed (g₀ : Graph) : List (EmittedNode NodeId) → Graph → Prop :=
  Emitted g₀ [] fun _ => none

theorem Unframed.refl (g : Graph) : Unframed g [] g := ⟨[], [], .refl g, .nil, rfl⟩

theorem forall₂_concat {α β : Type} {R : α → β → Prop} {front : List α} {last : α} {l : List β}
    (h : List.Forall₂ R (front ++ [last]) l) :
    ∃ front' last', l = front' ++ [last'] ∧ List.Forall₂ R front front' ∧ R last last' := by
  rw [← List.forall₂_reverse_iff, List.reverse_append] at h
  obtain ⟨last', rest, hlast, hrest, hl⟩ := List.forall₂_cons_left_iff.mp h
  refine ⟨rest.reverse, last', ?_, List.forall₂_reverse_iff.mp ?_, hlast⟩
  · rw [← List.reverse_cons, ← hl, List.reverse_reverse]
  · rwa [List.reverse_reverse]

/-- One more name is given to a result. -/
theorem record_concat (node : EmittedNode NodeId) (names : List String) (name : String)
    (frame : Option Nat) :
    { node.record names frame with
      values := (node.record names frame).values ++ [(.result, .text name)] } =
      ({ node with resultName := name } : EmittedNode NodeId).record (names ++ [name]) frame := by
  simp [EmittedNode.record, EmittedNode.kind]

variable {g₀ : Graph} {emitted : List (EmittedNode NodeId)} {front : List (NodeId × Node)}
  {id : NodeId} {m : RecordedNode}

/-- A node that has been made is emitted. -/
theorem Making.unframed {g : Graph} {node : EmittedNode NodeId} (names : List String)
    (h : Making g₀ front id (node.record names none) g)
    (hfront : List.Forall₂ (EmittedAs [] none) emitted front) (hid : id = node.handle)
    (hbindings : node.bindings = node.operation.bind node.args)
    (hnames : names.getLast? = some node.resultName) : Unframed g₀ (emitted ++ [node]) g := by
  obtain ⟨n, links, hg, hn, hlinks⟩ := h
  exact ⟨_, links, hg,
    List.rel_append hfront (.cons ⟨hid, hbindings, names, hnames, hn⟩ .nil), hlinks⟩

variable [IdentitySupply]

/-- A node just made is placed, and linked to the last one emitted. -/
theorem runs_place (h : List.Forall₂ (EmittedAs [] none) emitted front) :
    Runs (Created g₀ front id m) (sink.place emitted.getLast? id) fun position =>
      Making g₀ front id { m with position := position } := by
  have hmoved (position : Planar) : Runs (Making g₀ front id m)
      (sink.call (.setPosition id position) >>= fun _ => pure position) fun position =>
        Making g₀ front id { m with position := position } :=
    (runs_setPosition position).bind fun _ => runs_pure fun _ hg => hg
  unfold GraphSink.place
  rcases List.eq_nil_or_concat emitted with rfl | ⟨before, last, rfl⟩
  · cases h
    exact (runs_pure fun _ hg => hg.making).bind hmoved
  · rw [List.concat_eq_append] at h ⊢
    obtain ⟨front, ⟨id', n⟩, rfl, -, hlast⟩ := forall₂_concat h
    obtain rfl : id' = last.handle := hlast.handle
    rw [List.getLast?_concat]
    refine (runs_nodeLayout (last.handle, n)).bind fun _ => ?_
    refine (runs_connect hlast.ports).bind fun _ => Runs.bind ?_ hmoved
    exact runs_pure fun _ hg => hg

/-- One more node is emitted. -/
theorem runs_emitStep (emitted : List (EmittedNode NodeId)) (step : Step) :
    Runs (Unframed g₀ emitted) (sink.emitStep emitted step) (Unframed g₀) := by
  rintro g ⟨news, links, hg, hnews, hlinks⟩
  suffices h : Runs (Grown g₀ news links []) (sink.emitStep emitted step) (Unframed g₀) from h g hg
  unfold GraphSink.emitStep
  refine (runs_createNode hlinks step.operation.nodeKind).bind fun (node : NodeId) => ?_
  refine (runs_place hnews).bind fun position => ?_
  refine (runs_setOperation step.operation).bind fun _ => ?_
  refine (runs_writeBindings fun _ hb => Operation.socketType?_of_mem_bind hb).bind fun _ => ?_
  refine (runs_setInputValue (NodeKind.socketType?_result _)).bind fun _ => ?_
  exact runs_pure fun g hg => hg.unframed [step.resultName] hnews rfl rfl rfl

/-- The last node may be renamed. -/
theorem runs_nameNodes (plan : Plan) (emitted : List (EmittedNode NodeId)) :
    Runs (Unframed g₀ emitted) (sink.nameNodes plan emitted) (Unframed g₀) := by
  unfold GraphSink.nameNodes
  cases plan.finalName with
  | none => exact runs_pure fun _ hg => hg
  | some name =>
    unfold GraphSink.renameLast
    rcases List.eq_nil_or_concat emitted with rfl | ⟨before, last, rfl⟩
    · exact runs_pure fun _ hg => hg
    · simp only [List.concat_eq_append, List.getLast?_concat, List.dropLast_concat]
      rintro g ⟨news, links, hg, hnews, hlinks⟩
      obtain ⟨front, ⟨id, n⟩, rfl, hfront, hid, hbindings, names, -, hagrees⟩ :=
        forall₂_concat hnews
      have hrun : Runs (Making g₀ front id (last.record names none))
          (sink.call (.setInputValue id .result (.text name)) >>= fun _ =>
            pure (before ++ [{ last with resultName := name }])) (Unframed g₀) := by
        refine (runs_setInputValue (NodeKind.socketType?_result last.kind)).bind fun _ => ?_
        rw [record_concat]
        exact runs_pure fun g hg => hg.unframed _ hfront hid hbindings List.getLast?_concat
      obtain rfl : id = last.handle := hid
      exact hrun g ⟨n, links, hg, hagrees, hlinks⟩

end FormulaChain.Graph
