import FormulaChain.Proofs.Graph.Edit

/-!
# Integrity of edited graphs

Whatever a graph has been through, its connections and frames are in order (`Integrity`). One change
preserves this (`Change.integrity`), so any edits of an empty graph do (`integrity_run`). The nodes
that are made on the way stay there with all their ports.

That an input takes one connection only is checked by the identity of the port, over all connections
and whatever node it belongs to. So it counts here that no two ports share an identity.
-/

namespace FormulaChain.Graph

variable {g g' : Graph}

/-- All ports of all nodes. -/
def ports (g : Graph) : List Port := g.nodes.values.flatMap Node.ports

/-- The number of connections that enter a port. -/
def incoming (g : Graph) (port : PortId) : Nat :=
  (g.connections.values.filter (·.targetPort = port)).length

/-- A connection from an output of a node to a fitting input of another node. -/
def Joins (g : Graph) (c : Connection) : Prop :=
  c.source ≠ c.target ∧ ∃ source target output input, g.node? c.source = some source ∧
    g.node? c.target = some target ∧ source.port? c.sourcePort = some output ∧
    target.port? c.targetPort = some input ∧ output.direction = .output ∧
    input.direction = .input ∧ output.type.canConnectTo input.type = true

/-- Connections and frames are in order. -/
structure Integrity (g : Graph) : Prop where
  /-- Nodes are filed under their identities. -/
  filed : ∀ entry ∈ g.nodes.entries, entry.2.id = entry.1
  /-- No two ports have the same identity. -/
  distinct : (g.ports.map (·.id)).Nodup
  /-- Each connection joins two nodes. -/
  joins : ∀ c ∈ g.connections.values, g.Joins c
  /-- At most one connection enters a port that takes only one. -/
  single : ∀ p ∈ g.ports, p.acceptsMany = false → g.incoming p.id ≤ 1
  /-- Nodes lie in frames of the graph. -/
  parents : ∀ n ∈ g.nodes.values, ∀ frame, n.parent = some frame → frame ∈ g.frames.keys

theorem integrity_empty (name : String) (kind : GraphKind) : (empty name kind).Integrity := by
  constructor <;> simp [empty, Table.empty, ports, Table.values]

/-! ### Ports and connections -/

/-- A port that is found stays with its node, whatever becomes of default values. -/
theorem Keeps.port? (hk : Keeps g g') {id : NodeId} {n : Node} {portId : PortId} {p : Port}
    (hn : g.node? id = some n) (hp : n.port? portId = some p) :
    ∃ n' p', g'.node? id = some n' ∧ n'.port? portId = some p' ∧ p'.direction = p.direction ∧
      p'.type = p.type := by
  obtain ⟨n', hn', houtline, -⟩ := hk id n hn
  obtain ⟨p', hp', heq⟩ :=
    find?_of_outline (Node.map_ports_of_outline houtline.symm) (fun _ => rfl) hp
  have hdirection : p'.outline.direction = p.outline.direction := congrArg Port.direction heq
  have htype : p'.outline.type = p.outline.type := congrArg Port.type heq
  exact ⟨n', p', hn', hp', hdirection, htype⟩

theorem Joins.of_keeps {c : Connection} (h : g.Joins c) (hk : Keeps g g') : g'.Joins c := by
  obtain ⟨hne, source, target, output, input, hs, ht, ho, hi, hout, hin, hfit⟩ := h
  obtain ⟨source', output', hs', ho', hdirO, htypeO⟩ := hk.port? hs ho
  obtain ⟨target', input', ht', hi', hdirI, htypeI⟩ := hk.port? ht hi
  refine ⟨hne, source', target', output', input', hs', ht', ho', hi', hdirO.trans hout,
    hdirI.trans hin, ?_⟩
  rw [htypeO, htypeI, hfit]

/-- Where two ports can be connected, a connection between them joins their nodes. -/
theorem Connectable.joins {source target : NodeId} {sourcePort targetPort : PortId}
    (h : g.Connectable source sourcePort target targetPort) (id : ConnectionId) :
    g.Joins ⟨id, source, sourcePort, target, targetPort⟩ := by
  obtain ⟨n, n', output, input, hs, ht, ho, hi, hout, hfit, -⟩ := h.ports
  obtain ⟨hdirection, htype⟩ := Bool.and_eq_true_iff.mp hfit
  have hin : input.direction = .input := by
    cases hd : input.direction with
    | input => rfl
    | output => simp [hout, hd] at hdirection
  exact ⟨h.nodes, n, n', output, input, hs, ht, ho, hi, hout, hin, htype⟩

/-- A port that is found is one of the ports of the graph. -/
theorem mem_ports_of_port? {id : NodeId} {n : Node} {portId : PortId} {p : Port}
    (hn : g.node? id = some n) (hp : n.port? portId = some p) : p ∈ g.ports :=
  List.mem_flatMap.mpr ⟨n, Table.mem_values_of_mem (Table.get?_eq_some_iff.mp hn),
    List.mem_of_find?_eq_some hp⟩

/-- No connection enters a port with a number that is not in use. -/
theorem incoming_eq_zero {port : PortId} (h : port.number ∉ g.numbers) : g.incoming port = 0 := by
  rw [incoming, List.length_eq_zero_iff, List.filter_eq_nil_iff]
  intro c hc
  have hne : c.targetPort ≠ port := by
    rintro rfl
    exact h (target_mem_numbers hc)
  simpa using hne

/-- The number of a port is one of the numbers of its node. -/
theorem port_mem_numbers {n : Node} {p : Port} (hp : p ∈ n.ports) : p.id.number ∈ n.numbers :=
  List.mem_append_left _ (List.mem_cons_of_mem _ (List.mem_map_of_mem hp))

/-! ### New nodes -/

theorem ports_addNode {n : Node} (h : n.id ∉ g.nodes.keys) :
    (g.addNode n).ports = g.ports ++ n.ports := by
  simp [ports, Table.values, nodes_addNode h]

/-- The ports of a new node share no identity with others. -/
theorem nodup_ids_addNode {type : NodeType} {numbers : Numbering}
    (h : (g.ports.map (·.id)).Nodup)
    (fresh : ∀ number ∈ (Node.ofType type numbers).numbers, number ∉ g.numbers) :
    ((g.ports ++ (Node.ofType type numbers).ports).map (·.id)).Nodup := by
  rw [List.map_append]
  refine List.Nodup.append h (Node.nodup_ids_ofType type numbers) fun id hold hid => ?_
  obtain ⟨p, hp, rfl⟩ := List.mem_map.mp hid
  obtain ⟨q, hq, heq⟩ := List.mem_map.mp hold
  obtain ⟨n, hn, hqn⟩ := List.mem_flatMap.mp hq
  have hused : q.id.number ∈ g.numbers := part_mem_numbers hn (port_mem_numbers hqn)
  rw [heq] at hused
  exact fresh _ (port_mem_numbers hp) hused

/-! ### Replaced nodes -/

section Replaced

variable {id : NodeId} {f : Node → Node}
  (h : ∀ n, g.node? id = some n → g.MayReplace n (f n))

include h

/-- Where a node is replaced, each node is filed where one was that it may replace. -/
theorem mayReplace_modifyEntry {entry : NodeId × Node} (he : entry ∈ g.nodes.entries) :
    g.MayReplace entry.2 (Table.modifyEntry id f entry).2 := by
  by_cases hid : entry.1 = id
  · subst hid
    rw [Table.modifyEntry, if_pos rfl]
    exact h entry.2 (Table.get?_eq_some_iff.mpr he)
  · rw [Table.modifyEntry, if_neg hid]
    exact .refl g entry.2

/-- Replacing a node changes no more of the ports than default values. -/
theorem outlines_modifyNode :
    (g.modifyNode id f).ports.map Port.outline = g.ports.map Port.outline := by
  simp only [ports, Table.values, modifyNode, Table.entries_modify, List.map_flatMap,
    List.flatMap_map]
  refine List.flatMap_congr fun entry he => ?_
  exact Node.map_ports_of_outline (mayReplace_modifyEntry h he).outline

theorem ids_ports_modifyNode :
    (g.modifyNode id f).ports.map (·.id) = g.ports.map (·.id) := by
  have hids := congrArg (List.map (·.id)) (outlines_modifyNode h)
  rwa [List.map_map, List.map_map] at hids

/-- A port of a replaced node is the port of the node before, but for its default value. -/
theorem exists_port_of_modifyNode {p : Port} (hp : p ∈ (g.modifyNode id f).ports) :
    ∃ q ∈ g.ports, q.id = p.id ∧ q.acceptsMany = p.acceptsMany := by
  have hmem : p.outline ∈ g.ports.map Port.outline :=
    outlines_modifyNode h ▸ List.mem_map_of_mem hp
  obtain ⟨q, hq, heq⟩ := List.mem_map.mp hmem
  have hid : q.outline.id = p.outline.id := congrArg Port.id heq
  have hmany : q.outline.acceptsMany = p.outline.acceptsMany := congrArg Port.acceptsMany heq
  exact ⟨q, hq, hid, hmany⟩

end Replaced

/-! ### New connections -/

section Supply

variable [IdentitySupply]

theorem values_addConnection (source : NodeId) (sourcePort : PortId) (target : NodeId)
    (targetPort : PortId) :
    (g.addConnection source sourcePort target targetPort).connections.values =
      g.connections.values ++
        [⟨⟨g.nextNumbers.first⟩, source, sourcePort, target, targetPort⟩] := by
  simp [Table.values, connections_addConnection]

/-- A connection to a port that takes one only is the first to enter it. -/
theorem Integrity.incoming_addConnection (hg : g.Integrity) {source target : NodeId}
    {sourcePort targetPort : PortId} (h : g.Connectable source sourcePort target targetPort)
    {p : Port} (hp : p ∈ g.ports) (hmany : p.acceptsMany = false) :
    (g.addConnection source sourcePort target targetPort).incoming p.id ≤ 1 := by
  have hold : (g.connections.values.filter (·.targetPort = p.id)).length ≤ 1 :=
    hg.single p hp hmany
  rw [incoming, values_addConnection, List.filter_append, List.length_append]
  by_cases hid : targetPort = p.id
  · obtain ⟨n, n', output, input, hs, ht, ho, hi, hout, hfit, hfree⟩ := h.ports
    have hinput : input.id = p.id := by
      have hfound : input.id = targetPort := by simpa using List.find?_some hi
      rw [hfound, hid]
    have heq : input = p :=
      List.inj_on_of_nodup_map hg.distinct (mem_ports_of_port? ht hi) hp hinput
    have hnone : g.connections.values.filter (·.targetPort = p.id) = [] := by
      rw [List.filter_eq_nil_iff, ← hid]
      exact List.any_eq_false.mp (hfree (heq ▸ hmany))
    simp [hnone, hid]
  · simpa [hid] using hold

/-! ### Changes and runs -/

/-- **A change keeps connections and frames in order.** -/
theorem Change.integrity (h : Change g g') (hg : g.Integrity) : g'.Integrity := by
  have hjoins : ∀ c ∈ g.connections.values, g'.Joins c :=
    fun c hc => (hg.joins c hc).of_keeps h.keeps
  cases h with
  | none => exact hg
  | @newNode type numbers fresh =>
    have hentries := nodes_addNode (notMem_keys_of_fresh fresh)
    have hports := ports_addNode (notMem_keys_of_fresh fresh)
    refine ⟨fun entry he => ?_, ?_, hjoins, fun p hp hmany => ?_, fun n hn frame hf => ?_⟩
    · rw [hentries] at he
      rcases List.mem_append.mp he with hold | hnew
      · exact hg.filed entry hold
      · rw [List.mem_singleton.mp hnew]
    · rw [hports]
      exact nodup_ids_addNode hg.distinct fresh
    · rw [hports] at hp
      rcases List.mem_append.mp hp with hold | hnew
      · exact hg.single p hold hmany
      · have hzero : g.incoming p.id = 0 := incoming_eq_zero (fresh _ (port_mem_numbers hnew))
        show g.incoming p.id ≤ 1
        omega
    · rw [Table.values, hentries, List.map_append] at hn
      rcases List.mem_append.mp hn with hold | hnew
      · exact hg.parents n hold frame hf
      · rw [List.map_singleton, List.mem_singleton] at hnew
        rw [hnew] at hf
        cases hf
  | @replaced id f h =>
    refine ⟨fun entry he => ?_, ?_, hjoins, fun p hp hmany => ?_, fun n hn frame hf => ?_⟩
    · obtain ⟨old, hold, rfl⟩ := List.mem_map.mp he
      rw [(mayReplace_modifyEntry h hold).id, Table.modifyEntry_fst, hg.filed old hold]
    · rw [ids_ports_modifyNode h]
      exact hg.distinct
    · obtain ⟨q, hq, hid, heq⟩ := exists_port_of_modifyNode h hp
      rw [← hid]
      exact hg.single q hq (heq.trans hmany)
    · obtain ⟨entry, he, rfl⟩ := List.mem_map.mp hn
      obtain ⟨old, hold, rfl⟩ := List.mem_map.mp he
      rcases (mayReplace_modifyEntry h hold).parent frame hf with hparent | hmem
      · exact hg.parents old.2 (Table.mem_values_of_mem hold) frame hparent
      · exact hmem
  | @newConnection source sourcePort target targetPort h =>
    refine ⟨hg.filed, hg.distinct, fun c hc => ?_,
      fun p hp hmany => hg.incoming_addConnection h hp hmany, hg.parents⟩
    rw [values_addConnection] at hc
    rcases List.mem_append.mp hc with hold | hnew
    · exact hjoins c hold
    · rw [List.mem_singleton.mp hnew]
      exact h.joins _
  | newFrame label =>
    refine ⟨hg.filed, hg.distinct, hg.joins, hg.single, fun n hn frame hf => ?_⟩
    rw [Table.keys, frames_addFrame_newFrame, List.map_append]
    exact List.mem_append_left _ (hg.parents n hn frame hf)
  | refreshed => exact ⟨hg.filed, hg.distinct, hg.joins, hg.single, hg.parents⟩

/-- A node that was made is still there, with exactly the ports of its type, and with default values
that fit if those of the type do. -/
theorem exists_node_of_made? {before after : List Edit} {edit : Edit} {type : NodeType}
    {numbers : Numbering} (h : AllAllowed (before ++ edit :: after) g)
    (hmade : edit.made? (run before g) = some (type, numbers)) :
    ∃ n, (run (before ++ edit :: after) g).node? ⟨numbers.first⟩ = some n ∧
      n.outline = (Node.ofType type numbers).outline ∧
      ((Node.ofType type numbers).DefaultsFit → n.DefaultsFit) := by
  obtain ⟨-, hedit, hafter⟩ := allAllowed_append.mp h
  rw [run_append]
  exact keeps_run hafter _ _ (node?_of_made? hedit hmade)

/-- **Integrity of edited graphs**, wherever new numbers come from. After any edits of an empty
graph, connections and frames are in order, every node made from a type of geometry graphs still has
the ports of this type, with default values that fit, and whatever edit the graph refuses next
leaves it as it is. -/
theorem integrity_run (name : String) (kind : GraphKind) {edits : List Edit}
    (h : AllAllowed edits (empty name kind)) :
    (run edits (empty name kind)).Integrity ∧
    (∀ before edit after type numbers, edits = before ++ edit :: after →
      edit.made? (run before (empty name kind)) = some (type, numbers) →
      type ∈ NodeRegistry.geometry.values →
      ∃ n, (run edits (empty name kind)).node? ⟨numbers.first⟩ = some n ∧
        n.outline = (Node.ofType type numbers).outline ∧ n.DefaultsFit) ∧
    ∀ edit e, (Edit.perform edit (run edits (empty name kind))).1 = .error e →
      (Edit.perform edit (run edits (empty name kind))).2 = run edits (empty name kind) := by
  refine ⟨?_, ?_, fun edit e herror => perform_of_error herror⟩
  · exact run_induction (fun hc hg => hc.integrity hg) h (integrity_empty name kind)
  · rintro before edit after type numbers rfl hmade htype
    obtain ⟨n, hn, houtline, hfit⟩ := exists_node_of_made? h hmade
    exact ⟨n, hn, houtline, hfit (Node.defaultsFit_ofType (NodeRegistry.defaultFits htype))⟩

end Supply

/-- Two nodes are made and linked, and the first is renamed and put into a frame. -/
def renameLinked : List Edit := [
  .addNode NodeKind.attributeMath.nodeType (.consecutive 7),
  .request (.createNode .attributeVectorMath),
  .connect ⟨7⟩ ⟨16⟩ ⟨17⟩ ⟨18⟩,
  .addCopy { Node.ofType NodeKind.attributeMath.nodeType (.consecutive 7) with name := "Area" },
  .addFrame "Areas",
  .setParent ⟨7⟩ ⟨29⟩]

/-- The second node can be linked to the first only once. -/
theorem integrity_run_renameLinked :
    AllAllowed renameLinked (empty "Areas" .geometry) ∧
      (run renameLinked (empty "Areas" .geometry)).counts = [2, 1, 1, 0] ∧
      (run renameLinked (empty "Areas" .geometry)).Integrity ∧
      (∃ n, (run renameLinked (empty "Areas" .geometry)).node? ⟨17⟩ = some n ∧
        n.outline = (Node.ofType NodeKind.attributeVectorMath.nodeType (.consecutive 17)).outline ∧
        n.DefaultsFit) ∧
      (Edit.perform (.request (.connect ⟨7⟩ .geometry ⟨17⟩ .geometry))
        (run renameLinked (empty "Areas" .geometry))).2 =
          run renameLinked (empty "Areas" .geometry) := by
  have hallowed : AllAllowed renameLinked (empty "Areas" .geometry) := by
    refine ⟨fun number _ hused => ?_, trivial, trivial,
      ⟨.ofType NodeKind.attributeMath.nodeType (.consecutive 7), by decide +kernel, ?_⟩, trivial,
      trivial, trivial⟩
    · simp [numbers, empty, Table.empty, Table.keys, Table.values] at hused
    · exact { MayReplace.refl _ _ with }
  obtain ⟨hintegrity, hmade, hrefused⟩ := integrity_run "Areas" .geometry hallowed
  refine ⟨hallowed, by decide +kernel, hintegrity, ?_, ?_⟩
  · have hnext : (run [.addNode NodeKind.attributeMath.nodeType (.consecutive 7)]
        (empty "Areas" .geometry)).nextNumbers = .consecutive 17 :=
      congrArg Numbering.consecutive (by decide +kernel)
    exact hmade [.addNode NodeKind.attributeMath.nodeType (.consecutive 7)] _ _
      NodeKind.attributeVectorMath.nodeType (.consecutive 17) rfl
      (congrArg (fun numbers => some (_, numbers)) hnext) (by decide +kernel)
  · exact hrefused _ (.backend (.connection (.portAlreadyConnected ⟨18⟩))) (by decide +kernel)

end FormulaChain.Graph
