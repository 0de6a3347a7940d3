import FormulaChain.Catalog.Builtin
import FormulaChain.Graph.Order
import FormulaChain.Proofs.Graph.Lockstep
import Mathlib.Data.List.Nodup

/-!
# Graphs whose connections go forward

A graph may be such that every connection goes from a node to one that was added later (`Forward`).
Then the order of dependence is the order in which the nodes were added: when a node is taken, all
that it depends on has been placed, so that the search never goes deeper (`foldlM_placeNode`).

Compilations only ever make such graphs. Each adds a chain behind the nodes that are there
(`compile_forward`), so that the order of a graph that came from compilations is that of their
outputs (`topologicalOrder_forward`).
-/

namespace FormulaChain.Graph

open SinkRun

variable {g g' : Graph}

/-- Every connection goes from a node to one that was added later. -/
def Forward (g : Graph) : Prop :=
  ∀ c ∈ g.connections.values, g.nodeNumber c.source < g.nodeNumber c.target

theorem forward_empty (name : String) (kind : GraphKind) : (empty name kind).Forward := by
  simp [Forward, empty, Table.empty, Table.values]

/-! ### The search -/

/-- A search for nodes that are placed places nothing. -/
theorem foldlM_placeNode_placed {fuel : Nat} {path placed nodes : List NodeId}
    (h : ∀ node ∈ nodes, node ∈ placed) :
    nodes.foldlM (g.placeNode (fuel + 1) path) placed = pure placed := by
  induction nodes with
  | nil => rfl
  | cons node nodes ih =>
    rw [List.forall_mem_cons] at h
    rw [List.foldlM_cons, placeNode, if_pos h.1]
    exact ih h.2

/-- A node is placed next once all that it depends on is placed. -/
theorem placeNode_next {fuel : Nat} {placed : List NodeId} {node : NodeId} (hnew : node ∉ placed)
    (h : ∀ source ∈ g.dependencies node, source ∈ placed) :
    g.placeNode (fuel + 2) [] placed node = pure (placed ++ [node]) := by
  rw [placeNode, if_neg hnew, if_neg List.not_mem_nil, foldlM_placeNode_placed h]
  rfl

/-- A node that comes after some is none of them. -/
theorem notMem_of_keys {placed rest : List NodeId} {node : NodeId}
    (hkeys : g.nodes.keys = placed ++ node :: rest) : node ∉ placed := by
  have hnodup : (placed ++ node :: rest).Nodup := hkeys ▸ g.nodes.nodup_keys
  exact fun hp => (List.nodup_append.mp hnodup).2.2 node hp node List.mem_cons_self rfl

/-- What a node depends on was added before it. -/
theorem Forward.mem_of_mem_dependencies (hg : g.Forward) {placed rest : List NodeId}
    {node source : NodeId} (hkeys : g.nodes.keys = placed ++ node :: rest)
    (h : source ∈ g.dependencies node) : source ∈ placed := by
  obtain ⟨c, hc, rfl⟩ := List.mem_map.mp h
  obtain ⟨hmem, htarget⟩ := List.mem_filter.mp hc
  have hlt := hg c hmem
  have hnode : g.nodeNumber node = placed.length := by
    rw [nodeNumber, hkeys, List.idxOf_append_of_notMem (notMem_of_keys hkeys),
      List.idxOf_cons_self, Nat.add_zero]
  rw [of_decide_eq_true htarget, hnode] at hlt
  by_contra hno
  rw [nodeNumber, hkeys, List.idxOf_append_of_notMem hno] at hlt
  omega

/-- Where the first nodes are placed in order, so are all. -/
theorem foldlM_placeNode (hg : g.Forward) {fuel : Nat} {placed rest : List NodeId}
    (hkeys : g.nodes.keys = placed ++ rest) :
    rest.foldlM (g.placeNode (fuel + 2) []) placed = pure (placed ++ rest) := by
  induction rest generalizing placed with
  | nil =>
    rw [List.append_nil]
    rfl
  | cons node rest ih =>
    rw [List.foldlM_cons, placeNode_next (notMem_of_keys hkeys) fun _ =>
      hg.mem_of_mem_dependencies hkeys]
    have hrest := ih (hkeys.trans (List.append_cons placed node rest))
    rwa [List.append_assoc] at hrest

theorem Forward.topologicalOrder (hg : g.Forward) : g.topologicalOrder = .ok g.nodes.keys := by
  have hsearch : g.search (g.connections.size + 2) = some (.ok g.nodes.keys) := by
    rw [search, foldlM_placeNode hg (List.nil_append _).symm]
    rfl
  exact Option.get_of_eq_some _ hsearch

/-! ### Numbers of nodes -/

/-- A node keeps its number when others are added, and these have greater ones. -/
theorem nodeNumber_lt_of_prefix (h : g.nodes.keys <+: g'.nodes.keys) {a b : NodeId}
    (hab : g.nodeNumber a < g.nodeNumber b) : g'.nodeNumber a < g'.nodeNumber b := by
  obtain ⟨more, hkeys⟩ := h
  have ha : a ∈ g.nodes.keys :=
    List.idxOf_lt_length_iff.mp (Nat.lt_of_lt_of_le hab List.idxOf_le_length)
  simp only [nodeNumber, ← hkeys] at hab ⊢
  rw [List.idxOf_append_of_mem ha]
  by_cases hb : b ∈ g.nodes.keys
  · rwa [List.idxOf_append_of_mem hb]
  · rw [List.idxOf_append_of_notMem hb]
    exact Nat.lt_add_right _ (List.idxOf_lt_length_of_mem ha)

/-- A node has the number of its place. -/
theorem nodeNumber_of_getElem? {i : Nat} {id : NodeId} (h : g.nodes.keys[i]? = some id) :
    g.nodeNumber id = i := by
  obtain ⟨hlt, rfl⟩ := List.getElem?_eq_some_iff.mp h
  exact g.nodes.nodup_keys.idxOf_getElem i hlt

/-! ### Compilations -/

section Adds

variable {settings : Settings} {out : CompileOutput NodeId FrameId}
  {news : List (NodeId × Node)} {links : List (ConnectionId × Connection)}

theorem Adds.keys (h : Adds g settings out news links g') :
    g'.nodes.keys = g.nodes.keys ++ out.nodes.map (·.handle) := by
  rw [Table.keys, h.nodes, List.map_append, h.handles]
  rfl

/-- A new node has a number after all that were there before. -/
theorem Adds.nodeNumber (h : Adds g settings out news links g') {i : Nat}
    {entry : NodeId × Node} (hentry : news[i]? = some entry) :
    g'.nodeNumber entry.1 = g.nodes.keys.length + i := by
  apply nodeNumber_of_getElem?
  rw [h.keys, ← h.handles, List.getElem?_append_right (Nat.le_add_right _ _),
    Nat.add_sub_cancel_left, List.getElem?_map, hentry]
  rfl

/-- A chain of new nodes goes forward. -/
theorem Adds.forward (h : Adds g settings out news links g') (hg : g.Forward) : g'.Forward := by
  intro c hc
  rw [Table.values, h.connections, List.map_append] at hc
  rcases List.mem_append.mp hc with hold | hnew
  · exact nodeNumber_lt_of_prefix ⟨_, h.keys.symm⟩ (hg c hold)
  · obtain ⟨entry, hentry, rfl⟩ := List.mem_map.mp hnew
    have hlink : joined entry.2 ∈ List.zipWith geometryLink news news.tail :=
      h.chain ▸ List.mem_map_of_mem (f := fun c : ConnectionId × Connection => joined c.2) hentry
    obtain ⟨i, hi⟩ := List.mem_iff_getElem?.mp hlink
    obtain ⟨a, b, ha, hb, hab⟩ := List.getElem?_zipWith_eq_some.mp hi
    rw [List.getElem?_tail] at hb
    obtain ⟨hsource, hrest⟩ := Prod.mk.inj hab
    obtain ⟨-, hrest⟩ := Prod.mk.inj hrest
    obtain ⟨htarget, -⟩ := Prod.mk.inj hrest
    rw [← hsource, ← htarget, h.nodeNumber ha, h.nodeNumber hb]
    omega

end Adds

section Compiling

variable [IdentitySupply]

/-- A compilation into a geometry graph adds its nodes behind those that are there. -/
theorem compile_forward (hk : g.kind = .geometry) (hg : g.Forward) (catalog : Catalog)
    {settings : Settings} (hvalid : settings.isValid = true) :
    ∃ out g', sink.compile catalog settings g = (.ok out, g') ∧ g'.kind = .geometry ∧
      g'.Forward ∧ g'.nodes.keys = g.nodes.keys ++ out.nodes.map (·.handle) ∧
      GraphSink.InSequence out.nodes := by
  obtain ⟨out, g', hyields, hbuilt⟩ := runs_build hk
    (Plan.ofFormula catalog settings.tempName settings.formula) settings.formula
    settings.addFrame g rfl
  refine ⟨out, g', GraphSink.compile_eq_ok.mpr ⟨hvalid, hyields⟩, ?_⟩
  have hsequence := (GraphSink.build_layout hyields).1
  by_cases hc : (Plan.ofFormula catalog settings.tempName settings.formula).status = .cancelled
  · have hnone : out.nodes = [] := by
      have hsteps := (GraphSink.build_yields hyields).2.2
      rwa [if_pos hc, List.map_eq_nil_iff] at hsteps
    rw [hbuilt.cancelled hc, hnone]
    exact ⟨hk, hg, (List.append_nil _).symm, rfl⟩
  · obtain ⟨news, links, hadds⟩ := adds_of_built hc hbuilt
    exact ⟨hadds.kind.trans hk, hadds.forward hg, hadds.keys, hsequence⟩

/-- Compilations into a geometry graph add their nodes one after the other. -/
theorem compileAll_forward (hk : g.kind = .geometry) (hg : g.Forward)
    {jobs : List (Catalog × Settings)} (hvalid : ∀ job ∈ jobs, job.2.isValid = true) :
    ∃ (outs : List (CompileOutput NodeId FrameId)) (g' : Graph),
      sink.compileAll jobs g = (outs.map .ok, g') ∧ g'.Forward ∧
      g'.nodes.keys = g.nodes.keys ++ outs.flatMap (fun out => out.nodes.map (·.handle)) ∧
      ∀ out ∈ outs, GraphSink.InSequence out.nodes := by
  induction jobs generalizing g with
  | nil => exact ⟨[], g, rfl, hg, (List.append_nil _).symm, by simp⟩
  | cons job jobs ih =>
    rw [List.forall_mem_cons] at hvalid
    obtain ⟨out, g₁, hcompile, hk₁, hg₁, hkeys₁, hsequence⟩ :=
      compile_forward hk hg job.1 hvalid.1
    obtain ⟨outs, g', hrest, hg', hkeys, hsequences⟩ := ih hk₁ hg₁ hvalid.2
    refine ⟨out :: outs, g', ?_, hg', ?_, List.forall_mem_cons.mpr ⟨hsequence, hsequences⟩⟩
    · simp only [GraphSink.compileAll, hcompile, hrest, List.map_cons]
    · rw [hkeys, hkeys₁, List.flatMap_cons, List.append_assoc]

/-- **The order of dependence of a graph whose connections go forward** is the order in which its
nodes were added. Compilations into such a geometry graph leave such a graph, so that its order goes
on with the nodes of their outputs, in the order of the compilations and of their formulas. -/
theorem topologicalOrder_forward (hg : g.Forward) :
    g.topologicalOrder = .ok g.nodes.keys ∧
    ∀ jobs : List (Catalog × Settings), g.kind = .geometry →
      (∀ job ∈ jobs, job.2.isValid = true) →
      ∃ (outs : List (CompileOutput NodeId FrameId)) (g' : Graph),
        sink.compileAll jobs g = (outs.map .ok, g') ∧
        (∀ out ∈ outs, out.nodes.map (·.sequenceIndex) = List.range out.nodes.length) ∧
        g'.topologicalOrder =
          .ok (g.nodes.keys ++ outs.flatMap fun out => out.nodes.map (·.handle)) := by
  refine ⟨hg.topologicalOrder, fun jobs hk hvalid => ?_⟩
  obtain ⟨outs, g', hcompile, hg', hkeys, hsequence⟩ := compileAll_forward hk hg hvalid
  exact ⟨outs, g', hcompile, hsequence, hg'.topologicalOrder.trans (congrArg _ hkeys)⟩

end Compiling

/-- Formulas of two operators each, and one between them that is cancelled. -/
def areas : List (Catalog × Settings) := [
  (.builtin, ⟨"4 5 * sin -> area", "mf_temp", true⟩),
  (.builtin, ⟨"4 -> area", "mf_temp", true⟩),
  (.builtin, ⟨"area 2 / abs", "mf_temp", false⟩)]

/-- The four nodes stand in the order in which they were made. -/
theorem topologicalOrder_forward_areas :
    ∃ (outs : List (CompileOutput NodeId FrameId)) (g' : Graph),
      sink.compileAll areas (empty "Areas" .geometry) = (outs.map .ok, g') ∧
      g'.topologicalOrder = .ok (outs.flatMap fun out => out.nodes.map (·.handle)) ∧
      g'.nodes.keys = [⟨1⟩, ⟨11⟩, ⟨23⟩, ⟨33⟩] := by
  obtain ⟨-, hjobs⟩ := topologicalOrder_forward (forward_empty "Areas" .geometry)
  obtain ⟨outs, g', hcompile, -, horder⟩ := hjobs areas rfl (by decide)
  have hkeys : (sink.compileAll areas (empty "Areas" .geometry)).2.nodes.keys =
      [⟨1⟩, ⟨11⟩, ⟨23⟩, ⟨33⟩] := by decide +kernel
  rw [hcompile] at hkeys
  exact ⟨outs, g', hcompile, horder, hkeys⟩

end FormulaChain.Graph
