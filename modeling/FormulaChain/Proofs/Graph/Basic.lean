import FormulaChain.Graph.Sink
import FormulaChain.Proofs.Outcome
import FormulaChain.Proofs.Table

/-!
# Laws of graphs

The next numbers are in nobody's use: nothing in the graph has one of them, and nothing refers to
one either (`target_ne_next`, `parent_ne_next`), even if the graph refers to things that are not
there.
Two ports can be connected exactly if they are `Connectable` (`connect_eq_ok`).
-/

namespace FormulaChain.Graph

variable {g g' : Graph}

/-! ### Numbers in use -/

theorem node_mem_numbers {id : NodeId} (h : id ∈ g.nodes.keys) : id.number ∈ g.numbers := by
  simp only [numbers, List.mem_append]
  exact .inl (.inl (.inl (.inl (.inl (List.mem_map_of_mem h)))))

theorem part_mem_numbers {n : Node} {number : Nat} (hn : n ∈ g.nodes.values)
    (h : number ∈ n.numbers) : number ∈ g.numbers := by
  simp only [numbers, List.mem_append]
  exact .inl (.inl (.inl (.inl (.inr (List.mem_flatMap.mpr ⟨n, hn, h⟩)))))

theorem parent_mem_numbers {n : Node} {frame : FrameId} (hn : n ∈ g.nodes.values)
    (hf : n.parent = some frame) : frame.number ∈ g.numbers :=
  part_mem_numbers hn (by simp [Node.numbers, hf])

theorem connection_mem_numbers {id : ConnectionId} (h : id ∈ g.connections.keys) :
    id.number ∈ g.numbers := by
  simp only [numbers, List.mem_append]
  exact .inl (.inl (.inl (.inr (List.mem_map_of_mem h))))

theorem target_mem_numbers {c : Connection} (hc : c ∈ g.connections.values) :
    c.targetPort.number ∈ g.numbers := by
  have hmem : c.targetPort.number ∈ c.numbers := by simp [Connection.numbers]
  simp only [numbers, List.mem_append]
  exact .inl (.inl (.inr (List.mem_flatMap.mpr ⟨c, hc, hmem⟩)))

theorem frame_mem_numbers {id : FrameId} (h : id ∈ g.frames.keys) : id.number ∈ g.numbers := by
  simp only [numbers, List.mem_append]
  exact .inl (.inr (List.mem_map_of_mem h))

/-- A node that is not there goes to the end. -/
theorem nodes_addNode {n : Node} (h : n.id ∉ g.nodes.keys) :
    (g.addNode n).nodes.entries = g.nodes.entries ++ [(n.id, n)] :=
  Table.entries_insert h

/-! ### New numbers -/

section New

variable [IdentitySupply]

/-- The graph does not use the next numbers. -/
theorem next_notMem_numbers (g : Graph) (i : Nat) : g.nextNumbers.number i ∉ g.numbers :=
  IdentitySupply.unused g i

theorem next_notMem_nodes : (⟨g.nextNumbers.first⟩ : NodeId) ∉ g.nodes.keys :=
  fun h => next_notMem_numbers g 0 (node_mem_numbers h)

theorem next_notMem_connections : (⟨g.nextNumbers.first⟩ : ConnectionId) ∉ g.connections.keys :=
  fun h => next_notMem_numbers g 0 (connection_mem_numbers h)

theorem next_notMem_frames : (⟨g.nextNumbers.first⟩ : FrameId) ∉ g.frames.keys :=
  fun h => next_notMem_numbers g 0 (frame_mem_numbers h)

/-- No connection enters a port with one of the next numbers. -/
theorem target_ne_next {c : Connection} (hc : c ∈ g.connections.values) (i : Nat) :
    c.targetPort ≠ ⟨g.nextNumbers.number i⟩ := by
  intro h
  have hmem := target_mem_numbers hc
  rw [h] at hmem
  exact next_notMem_numbers g i hmem

/-- No node lies in the next frame. -/
theorem parent_ne_next {n : Node} (hn : n ∈ g.nodes.values) :
    n.parent ≠ some ⟨g.nextNumbers.first⟩ :=
  fun h => next_notMem_numbers g 0 (parent_mem_numbers hn h)

/-- A new node goes to the end. -/
theorem nodes_addNode_newNode (g : Graph) (type : NodeType) :
    (g.addNode (g.newNode type)).nodes.entries =
      g.nodes.entries ++ [(⟨g.nextNumbers.first⟩, .ofType type g.nextNumbers)] :=
  nodes_addNode next_notMem_nodes

/-- A new frame goes to the end. -/
theorem frames_addFrame_newFrame (g : Graph) (label : String) :
    (g.addFrame (g.newFrame label)).frames.entries =
      g.frames.entries ++ [(⟨g.nextNumbers.first⟩, ⟨⟨g.nextNumbers.first⟩, label⟩)] :=
  Table.entries_insert next_notMem_frames

end New

/-! ### Connecting -/

/-- What has to be so for two ports to be connected. -/
structure Connectable (g : Graph) (source : NodeId) (sourcePort : PortId) (target : NodeId)
    (targetPort : PortId) : Prop where
  /-- Both ports are there and fit. -/
  ports : ∃ sourceNode targetNode output input, g.node? source = some sourceNode ∧
    g.node? target = some targetNode ∧ sourceNode.port? sourcePort = some output ∧
    targetNode.port? targetPort = some input ∧ output.direction = .output ∧
    output.canConnect input = true ∧ (input.acceptsMany = false → g.isTarget targetPort = false)
  /-- No node is connected to itself. -/
  nodes : source ≠ target

theorem requireNode_eq_ok {id : NodeId} {n : Node} :
    g.requireNode id = .ok n ↔ g.node? id = some n := by
  unfold requireNode
  cases g.node? id <;> simp

theorem requirePort_eq_ok {n : Node} {id : PortId} {p : Port} :
    requirePort n id = .ok p ↔ n.port? id = some p := by
  unfold requirePort
  cases n.port? id <;> simp

section Connecting

variable [IdentitySupply]

/-- The graph with one more connection. -/
def addConnection (g : Graph) (source : NodeId) (sourcePort : PortId) (target : NodeId)
    (targetPort : PortId) : Graph :=
  let c : Connection := ⟨⟨g.nextNumbers.first⟩, source, sourcePort, target, targetPort⟩
  { g with connections := g.connections.insert c.id c }

/-- A new connection goes to the end. -/
theorem connections_addConnection (g : Graph) (source : NodeId) (sourcePort : PortId)
    (target : NodeId) (targetPort : PortId) :
    (g.addConnection source sourcePort target targetPort).connections.entries =
      g.connections.entries ++ [(⟨g.nextNumbers.first⟩,
        ⟨⟨g.nextNumbers.first⟩, source, sourcePort, target, targetPort⟩)] :=
  Table.entries_insert next_notMem_connections

theorem checkConnection_eq_ok {source target : NodeId} {sourcePort targetPort : PortId}
    {c : Connection} :
    g.checkConnection source sourcePort target targetPort = .ok c ↔
      g.Connectable source sourcePort target targetPort ∧
        c = ⟨⟨g.nextNumbers.first⟩, source, sourcePort, target, targetPort⟩ := by
  unfold checkConnection
  simp only [bind_eq_ok, check_eq_ok, requireNode_eq_ok, requirePort_eq_ok]
  constructor
  · rintro ⟨sourceNode, hs, targetNode, ht, output, ho, input, hi, hfit, hfree, hne, hc⟩
    rw [not_or, not_not] at hfit
    refine ⟨⟨⟨sourceNode, targetNode, output, input, hs, ht, ho, hi, hfit.1, ?_, ?_⟩, hne⟩, ?_⟩
    · simpa using hfit.2
    · simpa using hfree
    · exact (Except.ok.inj hc).symm
  · rintro ⟨⟨⟨sourceNode, targetNode, output, input, hs, ht, ho, hi, hd, hfit, hfree⟩, hne⟩, rfl⟩
    refine ⟨sourceNode, hs, targetNode, ht, output, ho, input, hi, ?_, ?_, hne, rfl⟩
    · simp [hd, hfit]
    · simpa using hfree

theorem connect_eq_ok {source target : NodeId} {sourcePort targetPort : PortId} :
    g.connect source sourcePort target targetPort = .ok g' ↔
      g.Connectable source sourcePort target targetPort ∧
        g' = g.addConnection source sourcePort target targetPort := by
  unfold connect
  rw [bind_eq_ok]
  constructor
  · rintro ⟨c, hc, hg⟩
    obtain ⟨hconnectable, rfl⟩ := checkConnection_eq_ok.mp hc
    exact ⟨hconnectable, (Except.ok.inj hg).symm⟩
  · rintro ⟨hconnectable, rfl⟩
    exact ⟨_, checkConnection_eq_ok.mpr ⟨hconnectable, rfl⟩, rfl⟩

end Connecting

/-! ### Frames -/

theorem setParent_eq_ok {node : NodeId} {frame : FrameId} :
    g.setParent node frame = .ok g' ↔ frame ∈ g.frames.keys ∧ node ∈ g.nodes.keys ∧
      g' = g.modifyNode node fun n => { n with parent := some frame } := by
  unfold setParent
  rw [← Table.contains_iff, ← Table.contains_iff]
  by_cases hf : g.frames.contains frame = true
  · by_cases hn : g.nodes.contains node = true
    · simp [hf, hn, eq_comm]
    · simp [hf, hn]
  · simp [hf]

end FormulaChain.Graph
