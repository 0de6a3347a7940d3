import FormulaChain.Proofs.Graph.Agreement
import FormulaChain.Proofs.Graph.Basic
import FormulaChain.Proofs.Sink.Layout

/-!
# Chains of formula nodes

What a compilation has made of a graph at any time: some nodes, connections and frames have been
added at the end, and nothing that was there before has changed (`Grown`). The nodes are linked to a
chain (`chained`), and the last of them is as it was recorded so far (`Making`).

Every request of a compilation is accepted in such a graph, and leaves such a graph: a socket that
is written has the type of the value, and a port that is linked belongs to a node just made, so that
no connection enters it yet.
-/

namespace FormulaChain.Graph

open SinkRun

/-! ### Links -/

/-- The nodes and ports that a connection joins. -/
def joined (c : Connection) : NodeId × Option PortId × NodeId × Option PortId :=
  (c.source, some c.sourcePort, c.target, some c.targetPort)

/-- From the geometry output of one node to the geometry input of another. -/
def geometryLink (a b : NodeId × Node) : NodeId × Option PortId × NodeId × Option PortId :=
  (a.1, (a.2.output? geometrySocketName).map (·.id), b.1,
    (b.2.input? geometrySocketName).map (·.id))

/-- The geometry ports of nodes belong to their outlines. -/
theorem geometryLink_congr {a a' b b' : NodeId × Node} (ha : a.1 = a'.1)
    (hout : a.2.outline = a'.2.outline) (hb : b.1 = b'.1) (hin : b.2.outline = b'.2.outline) :
    geometryLink a b = geometryLink a' b' := by
  have hid {ports ports' : List Port} (h : ports.map Port.outline = ports'.map Port.outline) :
      (ports.find? (·.name = geometrySocketName)).map (·.id) =
        (ports'.find? (·.name = geometrySocketName)).map (·.id) := by
    have hfind := congrArg (fun l => (l.find? (·.name = geometrySocketName)).map Port.id) h
    rwa [List.find?_map, List.find?_map, Option.map_map, Option.map_map] at hfind
  have hsource := hid (Prod.mk.inj hout).2
  have htarget := hid (Prod.mk.inj hin).1
  simp only [geometryLink, Node.output?, Node.input?, ha, hb, hsource, htarget]

/-- The links of nodes to a chain. -/
def chained (entries : List (NodeId × Node)) :
    List (NodeId × Option PortId × NodeId × Option PortId) :=
  List.zipWith geometryLink entries entries.tail

theorem chained_concat (front : List (NodeId × Node)) (a b : NodeId × Node) :
    chained (front ++ [a, b]) = chained (front ++ [a]) ++ [geometryLink a b] := by
  induction front with
  | nil => rfl
  | cons c front ih =>
    cases front with
    | nil => rfl
    | cons d front => exact congrArg (geometryLink c d :: ·) ih

/-- The last node may be replaced by one with the same ports. -/
theorem chained_last (front : List (NodeId × Node)) {a a' : NodeId × Node} (hid : a.1 = a'.1)
    (hout : a.2.outline = a'.2.outline) : chained (front ++ [a]) = chained (front ++ [a']) := by
  rcases List.eq_nil_or_concat front with rfl | ⟨front, before, rfl⟩
  · rfl
  · rw [List.concat_eq_append, List.append_assoc, List.append_assoc]
    show chained (front ++ [before, a]) = chained (front ++ [before, a'])
    rw [chained_concat, chained_concat, geometryLink_congr rfl rfl hid hout]

/-- Any nodes may be replaced by others with the same ports. -/
theorem chained_map {f : NodeId × Node → NodeId × Node}
    (hf : ∀ entry, (f entry).1 = entry.1 ∧ (f entry).2.outline = entry.2.outline)
    (entries : List (NodeId × Node)) : chained (entries.map f) = chained entries := by
  rw [chained, chained, ← List.map_tail, List.zipWith_map]
  congr 1
  funext a b
  exact geometryLink_congr (hf a).1 (hf a).2 (hf b).1 (hf b).2

/-! ### Growth -/

/-- A graph has come from another by adding nodes, connections and frames at the end. -/
structure Grown (g₀ : Graph) (news : List (NodeId × Node))
    (links : List (ConnectionId × Connection)) (frames : List (FrameId × Frame)) (g : Graph) :
    Prop where
  /-- The name stays. -/
  name : g.name = g₀.name
  /-- The kind stays. -/
  kind : g.kind = g₀.kind
  /-- The graph has not been refreshed. -/
  revision : g.revision = g₀.revision
  /-- New nodes follow those that were there. -/
  nodes : g.nodes.entries = g₀.nodes.entries ++ news
  /-- New connections follow those that were there. -/
  connections : g.connections.entries = g₀.connections.entries ++ links
  /-- New frames follow those that were there. -/
  frames : g.frames.entries = g₀.frames.entries ++ frames

namespace Grown

variable {g₀ g : Graph} {news front : List (NodeId × Node)}
  {links : List (ConnectionId × Connection)} {frames : List (FrameId × Frame)} {id : NodeId}
  {n : Node}

theorem refl (g : Graph) : Grown g [] [] [] g :=
  ⟨rfl, rfl, rfl, (List.append_nil _).symm, (List.append_nil _).symm, (List.append_nil _).symm⟩

/-- A new node is there. -/
theorem node? (h : Grown g₀ news links frames g) (hentry : (id, n) ∈ news) :
    g.node? id = some n := by
  rw [Graph.node?, Table.get?_eq_some_iff, h.nodes]
  exact List.mem_append_right _ hentry

/-- New nodes differ from those that were there, and from each other. -/
theorem nodup (h : Grown g₀ news links frames g) :
    (g₀.nodes.entries.map (·.1) ++ news.map (·.1)).Nodup := by
  rw [← List.map_append, ← h.nodes]
  exact g.nodes.nodup_keys

/-- A new node is changed. -/
theorem modifyNode (h : Grown g₀ news links frames g) (hentry : (id, n) ∈ news)
    (f : Node → Node) :
    Grown g₀ (news.map (Table.modifyEntry id f)) links frames (g.modifyNode id f) := by
  refine { h with nodes := ?_ }
  have hnew : id ∉ g₀.nodes.entries.map (·.1) := fun hold =>
    (List.nodup_append.mp h.nodup).2.2 _ hold _ (List.mem_map_of_mem hentry) rfl
  show (g.nodes.modify id f).entries = _
  rw [Table.entries_modify, h.nodes, List.map_append, Table.map_modifyEntry_of_notMem hnew]

/-- The last node is changed. -/
theorem modifyLast (h : Grown g₀ (front ++ [(id, n)]) links frames g) (f : Node → Node) :
    Grown g₀ (front ++ [(id, f n)]) links frames (g.modifyNode id f) := by
  have hchanged := h.modifyNode (List.mem_append_right front List.mem_cons_self) f
  have hfront : id ∉ front.map (·.1) := by
    have hnodup := (List.nodup_append.mp h.nodup).2.1
    rw [List.map_append, List.nodup_append] at hnodup
    exact fun hmem => hnodup.2.2 id hmem id List.mem_cons_self rfl
  rw [List.map_append, Table.map_modifyEntry_of_notMem hfront, List.map_singleton,
    Table.modifyEntry, if_pos rfl] at hchanged
  exact hchanged

end Grown

/-! ### The node that is being made -/

variable {g₀ g : Graph} {front : List (NodeId × Node)} {id : NodeId}
  {m m' : RecordedNode}

/-- A node is being made behind others, and they are linked to a chain: it is as it was recorded. -/
def Making (g₀ : Graph) (front : List (NodeId × Node)) (id : NodeId) (m : RecordedNode)
    (g : Graph) : Prop :=
  ∃ n links, Grown g₀ (front ++ [(id, n)]) links [] g ∧ NodeAgrees [] (id, n) m ∧
    links.map (fun c => joined c.2) = chained (front ++ [(id, n)])

/-- A node was made behind a chain, and no connection enters it yet. -/
def Created (g₀ : Graph) (front : List (NodeId × Node)) (id : NodeId) (m : RecordedNode)
    (g : Graph) : Prop :=
  ∃ n links, Grown g₀ (front ++ [(id, n)]) links [] g ∧ NodeAgrees [] (id, n) m ∧
    links.map (fun c => joined c.2) = chained front ∧
    ∀ p ∈ n.ports, g.isTarget p.id = false

/-- The first node is linked to none. -/
theorem Created.making (h : Created g₀ [] id m g) : Making g₀ [] id m g := by
  obtain ⟨n, links, hg, hn, hlinks, -⟩ := h
  exact ⟨n, links, hg, hn, hlinks⟩

/-- A node that is there is changed. -/
theorem changeNode_of_node? {n : Node} (h : g.node? id = some n) (f : Node → Node) :
    changeNode id f g = (.ok (), g.modifyNode id f) :=
  if_pos (Table.contains_iff.mpr (Table.mem_keys_of_mem (Table.get?_eq_some_iff.mp h)))

variable [IdentitySupply]

theorem runs_createNode {links : List (ConnectionId × Connection)}
    (hlinks : links.map (fun c => joined c.2) = chained front) (kind : NodeKind) :
    Runs (Grown g₀ front links []) (sink.call (.createNode kind)) fun node : NodeId =>
      Created g₀ front node (.fresh kind defaultNodeWidth) := by
  intro g hg
  refine ⟨⟨g.nextNumbers.first⟩, _, rfl, .ofType kind.nodeType g.nextNumbers, links,
    { hg with nodes := ?_ }, nodeAgrees_new [] kind g.nextNumbers, hlinks, fun p hp => ?_⟩
  · rw [nodes_addNode_newNode, hg.nodes, List.append_assoc]
  · have hnumber : p.id.number ∈ (Node.ofType kind.nodeType g.nextNumbers).ports.map
        (·.id.number) := List.mem_map_of_mem hp
    rw [Node.numbers_ports_ofType] at hnumber
    obtain ⟨i, -, hi⟩ := List.mem_map.mp hnumber
    show g.isTarget p.id = false
    rw [isTarget, List.any_eq_false]
    intro c hc htarget
    have heq : c.targetPort = p.id := of_decide_eq_true htarget
    exact target_ne_next hc i (heq.trans (congrArg PortId.mk hi.symm))

/-- A request about the node that is being made, which changes what is recorded of it. -/
theorem runs_change {request : Request NodeId FrameId}
    (h : ∀ g n, g.node? id = some n → NodeAgrees [] (id, n) m →
      ∃ a f, answer request g = (.ok a, g.modifyNode id f) ∧ (f n).outline = n.outline ∧
        NodeAgrees [] (id, f n) m') :
    Runs (Making g₀ front id m) (sink.call request) fun _ => Making g₀ front id m' := by
  rintro g ⟨n, links, hg, hn, hlinks⟩
  obtain ⟨a, f, hanswer, houtline, hagrees⟩ := h g n (hg.node? (by simp)) hn
  exact ⟨a, _, hanswer, f n, links, hg.modifyLast f, hagrees,
    hlinks.trans (chained_last front rfl houtline.symm)⟩

theorem runs_setPosition (position : Planar) :
    Runs (Making g₀ front id m) (sink.call (.setPosition id position)) fun _ =>
      Making g₀ front id { m with position := position } :=
  runs_change fun _ _ hn hm =>
    ⟨(), _, changeNode_of_node? hn _, rfl, { hm with position := rfl }⟩

theorem runs_setOperation (operation : Operation) :
    Runs (Making g₀ front id m) (sink.call (.setOperation id operation)) fun _ =>
      Making g₀ front id { m with operation := some operation } :=
  runs_change fun _ _ hn hm =>
    ⟨(), _, changeNode_of_node? hn _, rfl, { hm with operation := rfl }⟩

theorem runs_setInputKind (slot : Slot) (kind : InputKind) :
    Runs (Making g₀ front id m) (sink.call (.setInputKind id slot kind)) fun _ =>
      Making g₀ front id { m with inputKinds := m.inputKinds.set slot kind } :=
  runs_change fun _ _ hn hm =>
    ⟨(), _, changeNode_of_node? hn _, rfl,
      { hm with inputKinds := congrArg (·.set slot kind) hm.inputKinds }⟩

/-- A value of the type of a socket is written. -/
theorem runs_setInputValue {socket : Socket} {value : SocketValue}
    (ht : m.kind.socketType? socket = some value.portType) :
    Runs (Making g₀ front id m) (sink.call (.setInputValue id socket value)) fun _ =>
      Making g₀ front id { m with values := m.values ++ [(socket, value)] } := by
  refine runs_change fun g n hn hm => ?_
  obtain ⟨port, hport, htype⟩ := hm.ports.socket ht
  have hset : port.setDefault value = .ok { port with defaultValue := some value } :=
    if_pos htype.symm
  have hanswer : writeInput id socket.name value g = (.ok (), g.modifyNode id
      (·.replaceInput port { port with defaultValue := some value })) := by
    simp [writeInput, hn, hport, hset]
  exact ⟨(), _, hanswer, n.outline_replaceInput rfl, hm.setValue hport⟩

/-- The bindings of an operator are written, one after the other. -/
theorem runs_writeBindings {bindings : List Binding}
    (ht : ∀ b ∈ bindings, m.kind.socketType? b.socket = some b.value.portType) :
    Runs (Making g₀ front id m) (bindings.forM (sink.writeBinding id)) fun _ =>
      Making g₀ front id { m with
        inputKinds := m.inputKinds.choose bindings
        values := m.values ++ bindings.map Binding.written } := by
  have hround : ∀ done, ∀ b ∈ bindings, Runs
      (Making g₀ front id { m with
        inputKinds := m.inputKinds.choose done
        values := m.values ++ done.map Binding.written })
      (sink.writeBinding id b) fun _ => Making g₀ front id { m with
        inputKinds := m.inputKinds.choose (done ++ [b])
        values := m.values ++ (done ++ [b]).map Binding.written } := by
    intro done b hb
    have hkinds : m.inputKinds.choose (done ++ [b]) =
        (m.inputKinds.choose done).set b.slot b.kind := by
      simp [InputKinds.choose]
    rw [hkinds, List.map_append, ← List.append_assoc]
    exact (runs_setInputKind b.slot b.kind).bind fun _ => runs_setInputValue (ht b hb)
  have hloop := Runs.forM_done hround []
  rwa [List.map_nil, List.append_nil] at hloop

/-! ### Placing -/

/-- The node before is asked for its layout. -/
theorem runs_nodeLayout (before : NodeId × Node) :
    Runs (Created g₀ (front ++ [before]) id m) (sink.call (.nodeLayout before.1)) fun _ =>
      Created g₀ (front ++ [before]) id m := by
  rintro g ⟨n, links, hg, hrest⟩
  have hbefore : g.node? before.1 = some before.2 := hg.node? (by simp)
  have hanswer : (g.node? before.1).elim (.error (.unknownNode before.1))
      (fun n => .ok ⟨n.position, n.width⟩) =
        (.ok ⟨before.2.position, before.2.width⟩ : Except Refusal NodeLayout) := by
    rw [hbefore]
    rfl
  exact ⟨⟨before.2.position, before.2.width⟩, g, Prod.ext hanswer rfl, n, links, hg, hrest⟩

/-- A node just made is linked to the one before it. -/
theorem runs_connect {before : NodeId × Node} {kind : NodeKind} (hb : before.2.IsOfKind kind) :
    Runs (Created g₀ (front ++ [before]) id m)
      (sink.call (.connect before.1 .geometry id .geometry)) fun _ =>
        Making g₀ (front ++ [before]) id m := by
  rintro g ⟨n, links, hg, hn, hlinks, hfree⟩
  have hbefore : g.node? before.1 = some before.2 := hg.node? (by simp)
  have hnode : g.node? id = some n := hg.node? (by simp)
  have hne : before.1 ≠ id := by
    have hnodup := (List.nodup_append.mp hg.nodup).2.1
    simp only [List.map_append, List.map_cons, List.map_nil, List.append_assoc,
      List.nodup_append] at hnodup
    simpa using hnodup.2.1
  obtain ⟨output, hout, houtDir, houtType, houtPort⟩ := hb.output?
  obtain ⟨input, hin, hinDir, hinType, -, hinPort⟩ := hn.ports.input?
  have hunused : g.isTarget input.id = false :=
    hfree input (List.mem_append_left _ (List.mem_of_find?_eq_some hin))
  have hconnect : g.connect before.1 output.id id input.id =
      .ok (g.addConnection before.1 output.id id input.id) := by
    refine connect_eq_ok.mpr ⟨⟨⟨before.2, n, output, input, hbefore, hnode, houtPort, hinPort,
      houtDir, ?_, fun _ => hunused⟩, hne⟩, rfl⟩
    simp [Port.canConnect, houtDir, hinDir, houtType, hinType, PortType.canConnectTo]
  have hanswer : linkNamed before.1 OutputSocket.geometry.name id Socket.geometry.name g =
      (.ok (), g.addConnection before.1 output.id id input.id) := by
    simp [linkNamed, hbefore, hnode, hout, hin, hconnect]
  refine ⟨(), _, hanswer, n, links ++ [(⟨g.nextNumbers.first⟩,
    ⟨⟨g.nextNumbers.first⟩, before.1, output.id, id, input.id⟩)],
    { hg with connections := ?_ }, hn, ?_⟩
  · rw [connections_addConnection, hg.connections, List.append_assoc]
  · have hlink : geometryLink before (id, n) = (before.1, some output.id, id, some input.id) := by
      have hout' : before.2.output? geometrySocketName = some output := hout
      have hin' : n.input? geometrySocketName = some input := hin
      rw [geometryLink, hout', hin']
      rfl
    rw [List.append_assoc, List.singleton_append, chained_concat, ← hlinks, hlink,
      List.map_append]
    rfl

end FormulaChain.Graph
