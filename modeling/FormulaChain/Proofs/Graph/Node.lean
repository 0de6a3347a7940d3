import FormulaChain.Graph.Geometry
import FormulaChain.Node.Binding
import Mathlib.Data.List.Nodup

/-!
# The ports of formula nodes

Setting the values of a node changes no more of its ports than their default values. What is left of
a node without these is its outline, and it decides which ports are found under which names and
identities, and of which types they are (`Node.IsOfKind`).

A formula node has a port for whatever a compilation binds an operand to, and the port has the type
of the value written (`socketType?_of_mem_bind`).
-/

namespace FormulaChain

theorem map_replace {α β : Type} [BEq α] [LawfulBEq α] {f : α → β} {a b : α} (h : f b = f a)
    (l : List α) : (l.replace a b).map f = l.map f := by
  induction l with
  | nil => rfl
  | cons c l ih =>
    by_cases hc : c = a
    · subst hc
      simp [h]
    · have hne : (a == c) = false := beq_eq_false_iff_ne.mpr (Ne.symm hc)
      simp [List.replace_cons, hne, ih]

theorem mem_or_eq_of_mem_replace {α : Type} [BEq α] {a b c : α} {l : List α}
    (h : c ∈ l.replace a b) : c ∈ l ∨ c = b := by
  induction l with
  | nil => exact .inl h
  | cons d l ih =>
    rw [List.replace_cons] at h
    split at h
    · rcases List.mem_cons.mp h with rfl | hmem
      · exact .inr rfl
      · exact .inl (List.mem_cons_of_mem d hmem)
    · rcases List.mem_cons.mp h with rfl | hmem
      · exact .inl List.mem_cons_self
      · exact (ih hmem).imp_left (List.mem_cons_of_mem d)

section Replaced

variable {α : Type} [BEq α] [LawfulBEq α] {a b : α} {p : α → Bool}

/-- What is put in the place of the first element found is found. -/
theorem find?_replace_of_find? {l : List α} (h : l.find? p = some a) (hb : p b = true) :
    (l.replace a b).find? p = some b := by
  induction l with
  | nil => cases h
  | cons c l ih =>
    by_cases hc : c = a
    · subst hc
      simp [hb]
    · have hne : (a == c) = false := beq_eq_false_iff_ne.mpr (Ne.symm hc)
      have hpc : p c = false := by
        by_contra hp
        rw [List.find?_cons_of_pos (by simpa using hp)] at h
        exact hc (Option.some.inj h)
      rw [List.find?_cons_of_neg (by simp [hpc])] at h
      rw [List.replace_cons, hne]
      simpa [hpc] using ih h

/-- Replacing an element that is not looked for changes nothing. -/
theorem find?_replace_of_neg (ha : p a = false) (hb : p b = false) (l : List α) :
    (l.replace a b).find? p = l.find? p := by
  induction l with
  | nil => rfl
  | cons c l ih =>
    by_cases hc : c = a
    · subst hc
      simp [ha, hb]
    · have hne : (a == c) = false := beq_eq_false_iff_ne.mpr (Ne.symm hc)
      rw [List.replace_cons, hne]
      simp only [List.find?_cons, ih]

end Replaced

/-! ### Outlines -/

/-- A port without its default value. -/
def Port.outline (p : Port) : Port := { p with defaultValue := none }

theorem find?_of_outline {ports ports' : List Port} {p : Port → Bool}
    (h : ports.map Port.outline = ports'.map Port.outline) (hp : ∀ port, p port.outline = p port)
    {port : Port} (hf : ports.find? p = some port) :
    ∃ port', ports'.find? p = some port' ∧ port'.outline = port.outline := by
  have hfind : (ports.find? p).map Port.outline = (ports'.find? p).map Port.outline := by
    have hcomp : p ∘ Port.outline = p := funext hp
    have hboth := congrArg (List.find? p) h
    rwa [List.find?_map, List.find?_map, hcomp] at hboth
  rw [hf] at hfind
  obtain ⟨port', hport', heq⟩ := Option.map_eq_some_iff.mp hfind.symm
  exact ⟨port', hport', heq⟩

namespace Node

/-- The ports of a node without their default values. -/
def outline (n : Node) : List Port × List Port :=
  (n.inputs.map Port.outline, n.outputs.map Port.outline)

theorem outline_replaceInput (n : Node) {old new : Port} (h : new.outline = old.outline) :
    (n.replaceInput old new).outline = n.outline := by
  simp [outline, replaceInput, map_replace h]

theorem map_ports_of_outline {n m : Node} (h : n.outline = m.outline) :
    n.ports.map Port.outline = m.ports.map Port.outline := by
  obtain ⟨hin, hout⟩ := Prod.mk.inj h
  rw [ports, ports, List.map_append, List.map_append, hin, hout]

/-- The identities of ports belong to the outline. -/
theorem ids_of_outline {n m : Node} (h : n.outline = m.outline) :
    n.ports.map (·.id) = m.ports.map (·.id) := by
  have hids := congrArg (List.map (·.id)) (map_ports_of_outline h)
  rwa [List.map_map, List.map_map] at hids

/-- Where identities differ, a port is found by its own. -/
theorem port?_of_mem {n : Node} (hn : (n.ports.map (·.id)).Nodup) {p : Port} (hp : p ∈ n.ports) :
    n.port? p.id = some p := by
  unfold port?
  cases hf : n.ports.find? (·.id = p.id) with
  | none => simpa using List.find?_eq_none.mp hf p hp
  | some q =>
    have hid : q.id = p.id := by simpa using List.find?_some hf
    rw [List.inj_on_of_nodup_map hn (List.mem_of_find?_eq_some hf) hp hid]

/-! ### New nodes -/

theorem instantiatePorts_cons (numbers : Numbering) (start : Nat) (p : Port) (ports : List Port) :
    instantiatePorts numbers start (p :: ports) =
      p.instantiate ⟨numbers.number start⟩ :: instantiatePorts numbers (start + 1) ports := by
  simp [instantiatePorts, List.mapIdx_cons, Nat.add_comm, Nat.add_left_comm]

/-- New ports have the numbers from a place on. -/
theorem numbers_instantiatePorts (numbers : Numbering) (start : Nat) (ports : List Port) :
    (instantiatePorts numbers start ports).map (·.id.number) =
      (List.range' start ports.length).map numbers.number := by
  induction ports generalizing start with
  | nil => rfl
  | cons p ports ih =>
    rw [instantiatePorts_cons, List.map_cons, ih]
    rfl

/-- The ports of a new node have the numbers after the first. -/
theorem numbers_ports_ofType (type : NodeType) (numbers : Numbering) :
    (Node.ofType type numbers).ports.map (·.id.number) =
      (List.range' 1 (type.inputs.length + type.outputs.length)).map numbers.number := by
  rw [ports, List.map_append]
  simp only [Node.ofType, numbers_instantiatePorts, ← List.map_append, List.range'_append_1]

/-- A new node and its ports have the numbers from the first on. -/
theorem numbers_ofType (type : NodeType) (numbers : Numbering) :
    (Node.ofType type numbers).numbers =
      (List.range' 0 (type.inputs.length + type.outputs.length + 1)).map numbers.number := by
  rw [Node.numbers, numbers_ports_ofType, List.range'_succ]
  exact List.append_nil _

/-- The ports of a new node differ. -/
theorem nodup_ids_ofType (type : NodeType) (numbers : Numbering) :
    ((Node.ofType type numbers).ports.map (·.id)).Nodup := by
  refine List.Nodup.of_map PortId.number ?_
  have hnumbers := numbers_ports_ofType type numbers
  rw [List.map_map, Function.comp_def, hnumbers]
  exact (List.nodup_range').map numbers.injective

/-- A new port is like its model but for its identity. -/
theorem find?_instantiatePorts {β : Type} (view : Port → β)
    (hview : ∀ p id, view (p.instantiate id) = view p) (numbers : Numbering) (start : Nat)
    (ports : List Port) (name : String) :
    ((instantiatePorts numbers start ports).find? (·.name = name)).map view =
      (ports.find? (·.name = name)).map view := by
  induction ports generalizing start with
  | nil => rfl
  | cons p ports ih =>
    rw [instantiatePorts_cons]
    by_cases hp : p.name = name
    · simpa [Port.instantiate, hp] using hview p ⟨numbers.number start⟩
    · simpa [Port.instantiate, hp] using ih (start + 1)

/-! ### Nodes of a kind -/

/-- The node has the outline of a new node of a kind. -/
def IsOfKind (n : Node) (kind : NodeKind) : Prop :=
  ∃ numbers, n.outline = (Node.ofType kind.nodeType numbers).outline

theorem isOfKind_ofType (kind : NodeKind) (numbers : Numbering) :
    (Node.ofType kind.nodeType numbers).IsOfKind kind := ⟨numbers, rfl⟩

namespace IsOfKind

variable {n n' : Node} {kind : NodeKind}

/-- A node with the same outline is of the same kind. -/
theorem of_outline (h : n.IsOfKind kind) (hout : n'.outline = n.outline) : n'.IsOfKind kind := by
  obtain ⟨numbers, hn⟩ := h
  exact ⟨numbers, hout.trans hn⟩

theorem nodup_ids (h : n.IsOfKind kind) : (n.ports.map (·.id)).Nodup := by
  obtain ⟨numbers, hn⟩ := h
  rw [ids_of_outline hn]
  exact nodup_ids_ofType kind.nodeType numbers

/-- Geometry leaves a formula node by one output. -/
theorem output? (h : n.IsOfKind kind) :
    ∃ output, n.output? OutputSocket.geometry.name = some output ∧
      output.direction = .output ∧ output.type = .geometry ∧
      n.port? output.id = some output := by
  have hnodup := h.nodup_ids
  obtain ⟨numbers, hn⟩ := h
  have hnew : (Node.ofType kind.nodeType numbers).outputs.find?
      (·.name = OutputSocket.geometry.name) =
        some (.output ⟨numbers.number (1 + kind.inputPorts.length)⟩ geometrySocketName
          .geometry) := rfl
  obtain ⟨output, hfind, hout⟩ := find?_of_outline (Prod.mk.inj hn).2.symm (fun _ => rfl) hnew
  have hmem : output ∈ n.ports := List.mem_append_right _ (List.mem_of_find?_eq_some hfind)
  refine ⟨output, hfind, ?_, ?_, port?_of_mem hnodup hmem⟩
  · exact congrArg Port.direction hout
  · exact congrArg Port.type hout

/-- Geometry enters a formula node by one input, which takes one connection. -/
theorem input? (h : n.IsOfKind kind) :
    ∃ input, n.input? Socket.geometry.name = some input ∧ input.direction = .input ∧
      input.type = .geometry ∧ input.acceptsMany = false ∧ n.port? input.id = some input := by
  have hnodup := h.nodup_ids
  obtain ⟨numbers, hn⟩ := h
  have hnew : (Node.ofType kind.nodeType numbers).inputs.find?
      (·.name = Socket.geometry.name) =
        some (.input ⟨numbers.number 1⟩ geometrySocketName .geometry none) := by
    have hfirst : (Node.ofType kind.nodeType numbers).inputs =
        .input ⟨numbers.number 1⟩ geometrySocketName .geometry none ::
          instantiatePorts numbers 2 kind.inputPorts.tail :=
      instantiatePorts_cons numbers 1 _ _
    rw [hfirst]
    rfl
  obtain ⟨input, hfind, hin⟩ := find?_of_outline (Prod.mk.inj hn).1.symm (fun _ => rfl) hnew
  have hmem : input ∈ n.ports := List.mem_append_left _ (List.mem_of_find?_eq_some hfind)
  refine ⟨input, hfind, ?_, ?_, ?_, port?_of_mem hnodup hmem⟩
  · exact congrArg Port.direction hin
  · exact congrArg Port.type hin
  · exact congrArg Port.acceptsMany hin

end IsOfKind

end Node

/-! ### Sockets -/

/-- The type of the input that a kind of node has for a socket. -/
def NodeKind.socketType? (kind : NodeKind) (socket : Socket) : Option PortType :=
  (kind.inputPorts.find? (·.name = socket.name)).map (·.type)

theorem Node.IsOfKind.socket {n : Node} {kind : NodeKind} (h : n.IsOfKind kind) {socket : Socket}
    {type : PortType} (ht : kind.socketType? socket = some type) :
    ∃ port, n.input? socket.name = some port ∧ port.type = type := by
  obtain ⟨numbers, hn⟩ := h
  have hnew := (find?_instantiatePorts Port.type (fun _ _ => rfl) numbers 1 kind.inputPorts
    socket.name).trans ht
  obtain ⟨port, hport, rfl⟩ := Option.map_eq_some_iff.mp hnew
  obtain ⟨port', hfind, hout⟩ := find?_of_outline (Prod.mk.inj hn).1.symm (fun _ => rfl) hport
  have htype : port'.outline.type = port.outline.type := congrArg Port.type hout
  exact ⟨port', hfind, htype⟩

/-- The type of an input is what the kind of the node has for its socket. -/
theorem Node.IsOfKind.type_of_input? {n : Node} {kind : NodeKind} (h : n.IsOfKind kind)
    {socket : Socket} {port : Port} (hp : n.input? socket.name = some port) :
    kind.socketType? socket = some port.type := by
  obtain ⟨numbers, hn⟩ := h
  obtain ⟨port', hfind, hout⟩ := find?_of_outline (Prod.mk.inj hn).1 (fun _ => rfl) hp
  have htype : port'.outline.type = port.outline.type := congrArg Port.type hout
  have hmodel : kind.socketType? socket =
      ((Node.ofType kind.nodeType numbers).inputs.find? (·.name = socket.name)).map (·.type) :=
    (find?_instantiatePorts Port.type (fun _ _ => rfl) _ _ _ _).symm
  rw [hmodel, hfind]
  exact congrArg some htype

/-- A socket is known by its name. -/
theorem Socket.ofName?_name (socket : Socket) : Socket.ofName? socket.name = some socket := by
  cases socket with
  | geometry => decide
  | named slot => cases slot <;> decide
  | float slot => cases slot <;> decide
  | vector slot => cases slot <;> decide
  | result => decide

theorem Socket.name_injective {socket socket' : Socket} (h : socket.name = socket'.name) :
    socket = socket' := by
  have hname := congrArg Socket.ofName? h
  rw [ofName?_name, ofName?_name] at hname
  exact Option.some.inj hname

namespace NodeKind

/-- Geometry enters a formula node by the geometry socket only. -/
theorem eq_geometry_of_socketType? {kind : NodeKind} {socket : Socket}
    (h : kind.socketType? socket = some .geometry) : socket = .geometry := by
  cases socket with
  | geometry => rfl
  | named slot => cases kind <;> cases slot <;> exact absurd h (by decide)
  | float slot => cases kind <;> cases slot <;> exact absurd h (by decide)
  | vector slot => cases kind <;> cases slot <;> exact absurd h (by decide)
  | result => cases kind <;> exact absurd h (by decide)

theorem socketType?_result (kind : NodeKind) : kind.socketType? .result = some .text := by
  cases kind <;> decide

theorem socketType?_named (kind : NodeKind) (slot : Slot) :
    kind.socketType? (.named slot) = some .text := by
  cases kind <;> cases slot <;> decide

theorem socketType?_float (slot : Slot) :
    attributeMath.socketType? (.float slot) = some .float := by
  cases slot <;> decide

/-- The second operand of a vector node can be a number. -/
theorem socketType?_factor : attributeVectorMath.socketType? (.float .b) = some .float := by
  decide

theorem socketType?_vector (slot : Slot) :
    attributeVectorMath.socketType? (.vector slot) = some .vector := by
  cases slot <;> decide

theorem socketType?_ofScalar {kind : NodeKind} {slot : Slot}
    (hfloat : kind.socketType? (.float slot) = some .float) (operand : Operand) :
    kind.socketType? (Binding.ofScalar slot operand).socket =
      some (Binding.ofScalar slot operand).value.portType := by
  cases operand with
  | scalar s => exact hfloat
  | vector t => exact kind.socketType?_named slot
  | reference name => exact kind.socketType?_named slot

end NodeKind

/-- **A formula node has an input for every binding**, of the type of the value written. -/
theorem Operation.socketType?_of_mem_bind {operation : Operation} {args : List Operand}
    {b : Binding} (h : b ∈ operation.bind args) :
    operation.nodeKind.socketType? b.socket = some b.value.portType := by
  obtain ⟨i, hi⟩ := List.mem_iff_getElem?.mp h
  obtain ⟨slot, operand, -, -, rfl⟩ := List.getElem?_zipWith_eq_some.mp hi
  cases operation with
  | scalar o => exact NodeKind.socketType?_ofScalar (NodeKind.socketType?_float slot) operand
  | vector o =>
    simp only [Binding.ofOperand, Binding.ofVector]
    by_cases hfactor : Binding.isFactor o slot = true
    · rw [if_pos hfactor]
      have hslot : slot = .b := by simpa using (Bool.and_eq_true_iff.mp hfactor).2
      subst hslot
      exact NodeKind.socketType?_ofScalar NodeKind.socketType?_factor operand
    · rw [if_neg hfactor]
      cases operand with
      | scalar s => exact NodeKind.socketType?_vector slot
      | vector t => exact NodeKind.socketType?_vector slot
      | reference name => exact NodeKind.socketType?_named _ slot

end FormulaChain
