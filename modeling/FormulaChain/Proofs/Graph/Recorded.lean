import FormulaChain.Proofs.Graph.Compile
import FormulaChain.Proofs.Graph.Edit
import FormulaChain.Proofs.Sink.Mirror
import FormulaChain.Proofs.Sink.Recording

/-!
# A graph and what a recording sink records of it

A recording sink that gets the requests a geometry graph accepts keeps up with it (`Corresponds`):
its nodes, links and frames are those of the graph, numbered in the order of their creation, and the
values it has recorded are the default values of the ports. One request that the graph accepts is
accepted by the recording sink too, answered alike, and leaves the two in correspondence
(`Corresponds.answer`).

The numbers are read off a later graph, in which more nodes and frames may be there; as nothing is
ever removed, that changes none of them.
-/

namespace FormulaChain.Graph

/-! ### Numbers of nodes and frames -/

/-- The number of a node in the order of creation. -/
def nodeNumber (g : Graph) (id : NodeId) : Nat := g.nodes.keys.idxOf id

/-- The number of a frame in the order of creation. -/
def frameNumber (g : Graph) (id : FrameId) : Nat := g.frames.keys.idxOf id

/-- Nodes and frames of a graph are those of a later one, which may have more. -/
structure Extends (g g' : Graph) : Prop where
  /-- New nodes follow. -/
  nodes : g.nodes.keys <+: g'.nodes.keys
  /-- New frames follow. -/
  frames : g.frames.keys <+: g'.frames.keys

variable {g g' g'' : Graph}

theorem Extends.refl (g : Graph) : g.Extends g := ⟨List.prefix_rfl, List.prefix_rfl⟩

theorem Extends.trans (h : g.Extends g') (h' : g'.Extends g'') : g.Extends g'' :=
  ⟨h.nodes.trans h'.nodes, h.frames.trans h'.frames⟩

theorem Extends.addNode {n : Node} (h : n.id ∉ g.nodes.keys) : g.Extends (g.addNode n) := by
  refine ⟨?_, List.prefix_rfl⟩
  rw [Table.keys, Table.keys, nodes_addNode h, List.map_append]
  exact List.prefix_append _ _

theorem Extends.modifyNode (id : NodeId) (f : Node → Node) : g.Extends (g.modifyNode id f) := by
  have hkeys : (g.nodes.modify id f).keys = g.nodes.keys := Table.keys_modify f
  exact ⟨hkeys ▸ List.prefix_rfl, List.prefix_rfl⟩

/-- What is numbered stays where it is. -/
theorem getElem?_idxOf_of_prefix {α : Type} [DecidableEq α] {l l' : List α} {a : α}
    (h : l <+: l') (ha : a ∈ l) : l[l'.idxOf a]? = some a := by
  obtain ⟨more, rfl⟩ := h
  rw [List.idxOf_append_of_mem ha]
  exact List.getElem?_idxOf ha

/-- What is new is numbered next. -/
theorem idxOf_of_prefix_concat {α : Type} [DecidableEq α] {l l' : List α} {a : α} (ha : a ∉ l)
    (h : l ++ [a] <+: l') : l'.idxOf a = l.length := by
  obtain ⟨more, rfl⟩ := h
  rw [List.append_assoc, List.idxOf_append_of_notMem ha, List.singleton_append,
    List.idxOf_cons_self, Nat.add_zero]

/-- The entry of a node stands at its number. -/
theorem Extends.entry (h : g.Extends g') {id : NodeId} {n : Node} (hn : g.node? id = some n) :
    g.nodes.entries[g'.nodeNumber id]? = some (id, n) := by
  have hmem : (id, n) ∈ g.nodes.entries := Table.get?_eq_some_iff.mp hn
  have hkey := getElem?_idxOf_of_prefix h.nodes (Table.mem_keys_of_mem hmem)
  rw [Table.keys, List.getElem?_map] at hkey
  obtain ⟨⟨id', n'⟩, hentry, rfl⟩ := Option.map_eq_some_iff.mp hkey
  have heq : n' = n := Table.eq_of_mem_entries (List.mem_of_getElem? hentry) hmem
  rw [← heq]
  exact hentry

/-! ### Correspondence -/

/-- A connection is as it was recorded: it joins the geometry ports of two nodes, given here by the
entries of all nodes. -/
def LinkAgrees (entries : List (NodeId × Node)) (c : Connection) (l : RecordedLink) : Prop :=
  l.input = .geometry ∧ ∃ a b, entries[l.source]? = some a ∧ entries[l.target]? = some b ∧
    joined c = geometryLink a b

/-- A geometry graph is as it was recorded. -/
structure Corresponds (g : Graph) (r : Recording) : Prop where
  /-- It takes nodes of formulas. -/
  kind : g.kind = .geometry
  /-- The nodes are those recorded. -/
  nodes : List.Forall₂ (NodeAgrees g.frames.keys) g.nodes.entries r.nodes
  /-- The connections are those recorded. -/
  links : List.Forall₂ (LinkAgrees g.nodes.entries) g.connections.values r.links
  /-- The frames have the labels recorded. -/
  frames : g.frames.values.map (·.label) = r.frames
  /-- Refreshes were counted. -/
  revision : g.revision = r.refreshes

theorem corresponds_empty (name : String) : Corresponds (empty name .geometry) .empty :=
  ⟨rfl, .nil, .nil, rfl, rfl⟩

variable {r : Recording}

/-- A node is recorded under its number. -/
theorem Corresponds.node (h : Corresponds g r) (hext : g.Extends g') {id : NodeId} {n : Node}
    (hn : g.node? id = some n) :
    ∃ m, r.nodes[g'.nodeNumber id]? = some m ∧ NodeAgrees g.frames.keys (id, n) m := by
  have hentry := hext.entry hn
  obtain ⟨hlt, hget⟩ := List.getElem?_eq_some_iff.mp hentry
  have hlt' : g'.nodeNumber id < r.nodes.length := h.nodes.length_eq ▸ hlt
  have hagrees := h.nodes.get hlt hlt'
  simp only [List.get_eq_getElem, hget] at hagrees
  exact ⟨_, List.getElem?_eq_getElem hlt', hagrees⟩

theorem Corresponds.number_lt (h : Corresponds g r) (hext : g.Extends g') {id : NodeId} {n : Node}
    (hn : g.node? id = some n) : g'.nodeNumber id < r.nodes.length := by
  obtain ⟨m, hm, -⟩ := h.node hext hn
  exact (List.getElem?_eq_some_iff.mp hm).1

theorem Corresponds.length_nodes (h : Corresponds g r) :
    g.nodes.keys.length = r.nodes.length := by
  simp [← h.nodes.length_eq, Table.keys]

theorem Corresponds.length_frames (h : Corresponds g r) :
    g.frames.keys.length = r.frames.length := by
  simp [← h.frames, Table.keys, Table.values]

/-! ### Values are set -/

/-- Changing the entry under a key and what it is paired with changes no other pair. -/
theorem forall₂_modify {K V β : Type} [DecidableEq K] {R : K × V → β → Prop}
    {entries : List (K × V)} {items : List β} (h : List.Forall₂ R entries items)
    (hnodup : (entries.map (·.1)).Nodup) {i : Nat} {key : K} {value : V}
    (hi : entries[i]? = some (key, value)) {f : V → V} {f' : β → β}
    (hR : ∀ item, R (key, value) item → R (key, f value) (f' item)) :
    List.Forall₂ R (entries.map (Table.modifyEntry key f)) (items.modify i f') := by
  induction h generalizing i with
  | nil => cases hi
  | @cons entry item entries items hfirst hrest ih =>
    obtain ⟨hnew, hnodup⟩ := List.nodup_cons.mp hnodup
    cases i with
    | zero =>
      cases hi
      rw [List.map_cons, Table.map_modifyEntry_of_notMem hnew, Table.modifyEntry, if_pos rfl]
      exact .cons (hR item hfirst) hrest
    | succ i =>
      have hmem : (key, value) ∈ entries := List.mem_of_getElem? hi
      have hkey : key ∈ entries.map (·.1) := List.mem_map_of_mem hmem
      have hne : entry.1 ≠ key := by
        intro heq
        rw [← heq] at hkey
        exact hnew hkey
      rw [List.map_cons, Table.modifyEntry, if_neg hne]
      exact .cons hfirst (ih hnodup hi)

/-- Links are as recorded as long as no node gets other ports. -/
theorem LinkAgrees.modify {entries : List (NodeId × Node)} {c : Connection} {l : RecordedLink}
    (h : LinkAgrees entries c l) {id : NodeId} {f : Node → Node}
    (hf : ∀ n : Node, (f n).outline = n.outline) :
    LinkAgrees (entries.map (Table.modifyEntry id f)) c l := by
  obtain ⟨hinput, a, b, ha, hb, hjoined⟩ := h
  have houtline (entry : NodeId × Node) :
      (Table.modifyEntry id f entry).2.outline = entry.2.outline := by
    unfold Table.modifyEntry
    split
    · exact hf entry.2
    · rfl
  refine ⟨hinput, Table.modifyEntry id f a, Table.modifyEntry id f b, ?_, ?_, hjoined.trans ?_⟩
  · rw [List.getElem?_map, ha, Option.map_some]
  · rw [List.getElem?_map, hb, Option.map_some]
  · exact geometryLink_congr (Table.modifyEntry_fst ..).symm (houtline a).symm
      (Table.modifyEntry_fst ..).symm (houtline b).symm

/-- A node is changed on both sides. -/
theorem Corresponds.modifyNode (h : Corresponds g r) (hext : g.Extends g') {id : NodeId}
    {n : Node} (hn : g.node? id = some n) {f : Node → Node} {f' : RecordedNode → RecordedNode}
    (hf : ∀ n : Node, (f n).outline = n.outline)
    (hagree : ∀ m, NodeAgrees g.frames.keys (id, n) m →
      NodeAgrees g.frames.keys (id, f n) (f' m)) :
    Corresponds (g.modifyNode id f)
      { r with nodes := r.nodes.modify (g'.nodeNumber id) f' } :=
  ⟨h.kind, forall₂_modify h.nodes g.nodes.nodup_keys (hext.entry hn) hagree,
    h.links.imp fun _ _ hl => hl.modify hf, h.frames, h.revision⟩

/-- A change of a node is followed by a change of what was recorded of it, under the number that the
node has in a later graph. -/
theorem Corresponds.follow_modifyNode (h : Corresponds g r) {id : NodeId} {n : Node}
    (hn : g.node? id = some n) {f : Node → Node} {f' : RecordedNode → RecordedNode}
    (hf : ∀ n : Node, (f n).outline = n.outline)
    (hagree : ∀ m, NodeAgrees g.frames.keys (id, n) m →
      NodeAgrees g.frames.keys (id, f n) (f' m))
    (hext : (g.modifyNode id f).Extends g') :
    ∃ r', Recording.change (g'.nodeNumber id) f' r = (.ok (), r') ∧
      Corresponds (g.modifyNode id f) r' := by
  have hlater : g.Extends g' := (Extends.modifyNode id f).trans hext
  exact ⟨_, Recording.change_of_lt (h.number_lt hlater hn) f',
    h.modifyNode hlater hn hf hagree⟩

/-! ### Requests that set values -/

/-- With the numbers that nodes and frames have in a later graph, the recording sink answers a
request as the graph did, and corresponds to the graph after it. -/
def Follows (r : Recording) (request : Request NodeId FrameId) (a : request.Answer)
    (g' fin : Graph) : Prop :=
  ∃ r', Recording.sink.perform (request.rename fin.nodeNumber fin.frameNumber) r =
      (.ok (request.renameAnswer fin.nodeNumber fin.frameNumber a), r') ∧ Corresponds g' r'

/-- A node is changed in what its kind does not fix. -/
theorem Corresponds.changeNode (h : Corresponds g r) {node : NodeId} {f : Node → Node}
    {f' : RecordedNode → RecordedNode} {fin : Graph} {a : Unit}
    (ha : Graph.changeNode node f g = (.ok a, g')) (hext : g'.Extends fin)
    (hf : ∀ n : Node, (f n).outline = n.outline)
    (hagree : ∀ n m, NodeAgrees g.frames.keys (node, n) m →
      NodeAgrees g.frames.keys (node, f n) (f' m)) :
    ∃ r', Recording.change (fin.nodeNumber node) f' r = (.ok a, r') ∧ Corresponds g' r' := by
  rcases changeNode_cases node f g with ⟨e, he⟩ | ⟨hmem, heq⟩
  · cases he.symm.trans ha
  · cases heq.symm.trans ha
    obtain ⟨n, hn⟩ := Option.isSome_iff_exists.mp (Table.contains_iff.mpr hmem)
    exact h.follow_modifyNode hn hf (hagree n) hext

theorem Corresponds.setInputValue (h : Corresponds g r) {node : NodeId} {socket : Socket}
    {value : SocketValue} {fin : Graph} {a : Unit}
    (ha : writeInput node socket.name value g = (.ok a, g')) (hext : g'.Extends fin) :
    Follows r (.setInputValue node socket value) a g' fin := by
  rcases writeInput_cases node socket.name value g with ⟨e, he⟩ | ⟨n, port, hn, hport, -, heq⟩
  · cases he.symm.trans ha
  · cases heq.symm.trans ha
    exact h.follow_modifyNode hn (fun n => n.outline_replaceInput rfl)
      (fun m hm => hm.setValue hport) hext

/-! ### New things -/

/-- Links are as recorded when more nodes are there. -/
theorem LinkAgrees.append {entries : List (NodeId × Node)} {c : Connection} {l : RecordedLink}
    (h : LinkAgrees entries c l) (more : List (NodeId × Node)) :
    LinkAgrees (entries ++ more) c l := by
  obtain ⟨hinput, a, b, ha, hb, hjoined⟩ := h
  have hlater {i : Nat} {e : NodeId × Node} (he : entries[i]? = some e) :
      (entries ++ more)[i]? = some e := by
    rw [List.getElem?_append_left (List.getElem?_eq_some_iff.mp he).1, he]
  exact ⟨hinput, a, b, hlater ha, hlater hb, hjoined⟩

/-- What can be connected to a geometry output of a formula node is a geometry input. -/
theorem eq_geometry_of_connectable {source target : NodeId} {n n' : Node} {kind kind' : NodeKind}
    (hn : g.node? source = some n) (hk : n.IsOfKind kind) (hn' : g.node? target = some n')
    (hk' : n'.IsOfKind kind') {input : Socket} {sourcePort targetPort : Port}
    (hs : n.output? OutputSocket.geometry.name = some sourcePort)
    (ht : n'.input? input.name = some targetPort)
    (hc : g.Connectable source sourcePort.id target targetPort.id) : input = .geometry := by
  obtain ⟨_, _, output, target', hns, hnt, ho, hi, -, hfit, -⟩ := hc.ports
  cases hns.symm.trans hn
  cases hnt.symm.trans hn'
  obtain ⟨output', hs', -, htype, hport⟩ := hk.output?
  cases hs'.symm.trans hs
  cases hport.symm.trans ho
  have hmem : targetPort ∈ n'.ports := List.mem_append_left _ (List.mem_of_find?_eq_some ht)
  cases (Node.port?_of_mem hk'.nodup_ids hmem).symm.trans hi
  have hfits := (Bool.and_eq_true_iff.mp hfit).2
  rw [htype] at hfits
  have hgeometry : targetPort.type = .geometry := by
    simpa [PortType.canConnectTo, eq_comm] using hfits
  have hsocket := hk'.type_of_input? ht
  rw [hgeometry] at hsocket
  exact NodeKind.eq_geometry_of_socketType? hsocket

variable [IdentitySupply]

theorem Change.extends (h : Change g g') : g.Extends g' := by
  cases h with
  | none => exact .refl g
  | newNode fresh => exact .addNode (notMem_keys_of_fresh fresh)
  | replaced h => exact .modifyNode _ _
  | newConnection h => exact ⟨List.prefix_rfl, List.prefix_rfl⟩
  | newFrame label =>
    refine ⟨List.prefix_rfl, ?_⟩
    rw [Table.keys, Table.keys, frames_addFrame_newFrame, List.map_append]
    exact List.prefix_append _ _
  | refreshed => exact ⟨List.prefix_rfl, List.prefix_rfl⟩

theorem Corresponds.createNode (h : Corresponds g r) (kind : NodeKind) :
    Corresponds (g.addNode (g.newNode kind.nodeType))
      { r with nodes := r.nodes ++ [.fresh kind defaultNodeWidth] } := by
  have hentries := nodes_addNode_newNode g kind.nodeType
  refine ⟨h.kind, ?_, ?_, h.frames, h.revision⟩
  · rw [hentries]
    exact List.rel_append h.nodes (.cons (nodeAgrees_new _ kind _) .nil)
  · rw [hentries]
    exact h.links.imp fun _ _ hl => hl.append _

theorem Corresponds.createFrame (h : Corresponds g r) (label : String) :
    Corresponds (g.addFrame (g.newFrame label)) { r with frames := r.frames ++ [label] } := by
  have hentries := frames_addFrame_newFrame g label
  refine ⟨h.kind, ?_, h.links, ?_, h.revision⟩
  · rw [Table.keys, hentries, List.map_append]
    exact h.nodes.imp fun _ _ hn => hn.addFrame next_notMem_frames
  · rw [Table.values, hentries, List.map_append, List.map_append, ← h.frames]
    rfl

/-- Two nodes are linked on both sides. -/
theorem Corresponds.connect (h : Corresponds g r) (hext : g.Extends g') {source target : NodeId}
    {n n' : Node} (hn : g.node? source = some n) (hn' : g.node? target = some n') {input : Socket}
    {sourcePort targetPort : Port}
    (hs : n.output? OutputSocket.geometry.name = some sourcePort)
    (ht : n'.input? input.name = some targetPort)
    (hc : g.Connectable source sourcePort.id target targetPort.id) :
    Corresponds (g.addConnection source sourcePort.id target targetPort.id)
      { r with links := r.links ++
        [⟨g'.nodeNumber source, .geometry, g'.nodeNumber target, input⟩] } := by
  obtain ⟨m, -, hm⟩ := h.node hext hn
  obtain ⟨m', -, hm'⟩ := h.node hext hn'
  have hinput := eq_geometry_of_connectable hn hm.ports hn' hm'.ports hs ht hc
  subst hinput
  refine ⟨h.kind, h.nodes, ?_, h.frames, h.revision⟩
  rw [Table.values, connections_addConnection, List.map_append]
  refine List.rel_append h.links (.cons ⟨rfl, _, _, hext.entry hn, hext.entry hn', ?_⟩ .nil)
  have hs' : n.output? geometrySocketName = some sourcePort := hs
  have ht' : n'.input? geometrySocketName = some targetPort := ht
  rw [geometryLink, hs', ht']
  rfl

/-! ### All requests -/

section Follow

variable {fin : Graph} {a : Unit}

theorem Corresponds.linkNamed (h : Corresponds g r) {source target : NodeId}
    {output : OutputSocket} {input : Socket}
    (ha : Graph.linkNamed source output.name target input.name g = (.ok a, g'))
    (hext : g'.Extends fin) : Follows r (.connect source output target input) a g' fin := by
  rcases linkNamed_cases source output.name target input.name g with
    ⟨e, he⟩ | ⟨n, n', sourcePort, targetPort, hn, hn', hs, ht, hc, heq⟩
  · cases he.symm.trans ha
  · cases heq.symm.trans ha
    cases output
    have hlater : g.Extends fin := ⟨hext.nodes, hext.frames⟩
    refine ⟨_, ?_, h.connect hlater hn hn' hs ht hc⟩
    show Recording.link (fin.nodeNumber source) .geometry (fin.nodeNumber target) input r = _
    rw [Recording.link, if_neg (Nat.not_le.mpr (h.number_lt hlater hn)),
      if_neg (Nat.not_le.mpr (h.number_lt hlater hn'))]
    rfl

theorem Corresponds.assignToFrame (h : Corresponds g r) {node : NodeId} {frame : FrameId}
    (ha : Graph.answer (.assignToFrame node frame) g = (.ok a, g')) (hext : g'.Extends fin) :
    Follows r (.assignToFrame node frame) a g' fin := by
  rcases assignToFrame_cases node frame g with ⟨e, he⟩ | ⟨hframe, hmem, heq⟩
  · cases he.symm.trans ha
  · cases heq.symm.trans ha
    obtain ⟨n, hn⟩ := Option.isSome_iff_exists.mp (Table.contains_iff.mpr hmem)
    have hlater : g.Extends fin := (Extends.modifyNode _ _).trans hext
    have hk : g.frames.keys[fin.frameNumber frame]? = some frame :=
      getElem?_idxOf_of_prefix hlater.frames hframe
    have hlt : fin.frameNumber frame < r.frames.length := by
      rw [← h.length_frames]
      exact (List.getElem?_eq_some_iff.mp hk).1
    show ∃ r', Recording.assign (fin.nodeNumber node) (fin.frameNumber frame) r = _ ∧ _
    rw [Recording.assign, if_neg (Nat.not_le.mpr hlt)]
    exact h.follow_modifyNode hn (fun _ => rfl)
      (fun m hm => hm.setFrame g.frames.nodup_keys hk) hext

theorem Corresponds.follow_createNode (h : Corresponds g r) (kind : NodeKind)
    (hext : (g.addNode (g.newNode kind.nodeType)).Extends fin) :
    Follows r (.createNode kind) ⟨g.nextNumbers.first⟩ (g.addNode (g.newNode kind.nodeType))
      fin := by
  refine ⟨_, Prod.ext (congrArg Except.ok ?_) rfl, h.createNode kind⟩
  have hkeys := hext.nodes
  rw [Table.keys, nodes_addNode_newNode, List.map_append] at hkeys
  show r.nodes.length = fin.nodeNumber ⟨g.nextNumbers.first⟩
  rw [nodeNumber, idxOf_of_prefix_concat next_notMem_nodes hkeys, h.length_nodes]

theorem Corresponds.follow_createFrame (h : Corresponds g r) (label : String)
    (hext : (g.addFrame (g.newFrame label)).Extends fin) :
    Follows r (.createFrame label) ⟨g.nextNumbers.first⟩ (g.addFrame (g.newFrame label)) fin := by
  refine ⟨_, Prod.ext (congrArg Except.ok ?_) rfl, h.createFrame label⟩
  have hkeys := hext.frames
  rw [Table.keys, frames_addFrame_newFrame, List.map_append] at hkeys
  show r.frames.length = fin.frameNumber ⟨g.nextNumbers.first⟩
  rw [frameNumber, idxOf_of_prefix_concat next_notMem_frames hkeys, h.length_frames]

theorem Corresponds.nodeLayout (h : Corresponds g r) {node : NodeId} {layout : NodeLayout}
    (ha : Graph.answer (.nodeLayout node) g = (.ok layout, g')) (hext : g'.Extends fin) :
    Follows r (.nodeLayout node) layout g' fin := by
  cases hn : g.node? node with
  | none => simp [Graph.answer, hn] at ha
  | some n =>
    obtain ⟨hlayout, rfl⟩ := Prod.mk.inj ha
    refine ⟨r, Prod.ext ?_ rfl, h⟩
    obtain ⟨m, hm, hagree⟩ := h.node hext hn
    have hposition : n.position = m.position := hagree.position
    have hwidth : n.width = m.width := hagree.width
    rw [hn] at hlayout
    cases hlayout
    show r.layout (fin.nodeNumber node) = .ok ⟨n.position, n.width⟩
    simp only [Recording.layout, hm, hposition, hwidth]

end Follow

/-- **A recording sink follows a graph.** Whatever request the graph accepts, the recording sink
does too. -/
theorem Corresponds.answer (h : Corresponds g r) {request : Request NodeId FrameId}
    {a : request.Answer} (ha : Graph.answer request g = (.ok a, g')) {fin : Graph}
    (hext : g'.Extends fin) : Follows r request a g' fin := by
  cases request with
  | ensureReady =>
    obtain ⟨-, rfl⟩ := Prod.mk.inj ha
    exact ⟨r, rfl, h⟩
  | createNode kind =>
    cases ha
    exact h.follow_createNode kind hext
  | nodeLayout node => exact h.nodeLayout ha hext
  | setPosition node position =>
    exact h.changeNode ha hext (fun _ => rfl) fun _ _ hm => { hm with position := rfl }
  | setOperation node operation =>
    exact h.changeNode ha hext (fun _ => rfl) fun _ _ hm => { hm with operation := rfl }
  | setInputKind node slot kind =>
    exact h.changeNode ha hext (fun _ => rfl) fun _ _ hm =>
      { hm with inputKinds := congrArg (·.set slot kind) hm.inputKinds }
  | setInputValue node socket value => exact h.setInputValue ha hext
  | connect source output target input => exact h.linkNamed ha hext
  | createFrame label =>
    cases ha
    exact h.follow_createFrame label hext
  | assignToFrame node frame => exact h.assignToFrame ha hext

end FormulaChain.Graph
