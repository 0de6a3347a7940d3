import FormulaChain.Catalog.Builtin
import FormulaChain.Graph.Order
import FormulaChain.Proofs.Graph.Edit
import FormulaChain.Proofs.Outcome
import FormulaChain.Proofs.Sink.Build
import Mathlib.Data.List.Chain
import Mathlib.Logic.Relation

/-!
# The order of dependence of any graph

Edits may connect the nodes of a graph in any direction, also in a circle. The search for an order
places nodes so that each comes after all that feed it (`Sorted`, `placeNode_reaches`), and when it
reports a cycle, the nodes on its path have led it back to one of them (`not_acyclic_of_placeNode`).
What it says with some fuel it says with any more (`search_of_le`), and it always has enough.

So a reachable graph has an order exactly if it has no cycle (`topologicalOrder_iff`). All that is
needed of such a graph is that connections join nodes that are there (`Closed`).
-/

namespace FormulaChain.Graph

open Relation

variable {g g' : Graph}

/-! ### Dependence -/

/-- Some connection goes from one node to another. -/
def Feeds (g : Graph) (source target : NodeId) : Prop :=
  ∃ c ∈ g.connections.values, c.source = source ∧ c.target = target

/-- No node feeds itself through others. -/
def Acyclic (g : Graph) : Prop := ∀ id, ¬ TransGen g.Feeds id id

theorem mem_dependencies {source target : NodeId} :
    source ∈ g.dependencies target ↔ g.Feeds source target := by
  simp only [dependencies, connectionsTo, List.mem_map, List.mem_filter, decide_eq_true_eq, Feeds]
  constructor
  · rintro ⟨c, ⟨hc, htarget⟩, hsource⟩
    exact ⟨c, hc, hsource, htarget⟩
  · rintro ⟨c, hc, hsource, htarget⟩
    exact ⟨c, ⟨hc, htarget⟩, hsource⟩

/-! ### Reachable graphs -/

/-- Both ends of every connection are there. -/
def Closed (g : Graph) : Prop :=
  ∀ c ∈ g.connections.values, c.source ∈ g.nodes.keys ∧ c.target ∈ g.nodes.keys

/-- Nodes may be added and replaced. -/
theorem Closed.of_keys (hg : g.Closed) (hkeys : g.nodes.keys ⊆ g'.nodes.keys)
    (hconnections : g'.connections = g.connections) : g'.Closed := by
  intro c hc
  rw [hconnections] at hc
  exact ⟨hkeys (hg c hc).1, hkeys (hg c hc).2⟩

theorem Keeps.keys (h : Keeps g g') : g.nodes.keys ⊆ g'.nodes.keys := by
  intro id hid
  obtain ⟨entry, hentry, hkey⟩ := List.mem_map.mp hid
  have hnode : g.node? id = some entry.2 := Table.get?_eq_some_iff.mpr (hkey ▸ hentry)
  obtain ⟨n', hn', -⟩ := h id entry.2 hnode
  exact Table.mem_keys_of_mem (Table.get?_eq_some_iff.mp hn')

theorem keys_addNode (g : Graph) (n : Node) : g.nodes.keys ⊆ (g.addNode n).nodes.keys := by
  intro id hid
  by_cases hn : n.id ∈ g.nodes.keys
  · rwa [addNode, Table.insert_of_mem hn, Table.keys_modify]
  · rw [Table.keys, nodes_addNode hn, List.map_append]
    exact List.mem_append_left _ hid

/-- What feeds a node is there, and so is the node. -/
theorem Closed.mem_of_feeds (hg : g.Closed) {source target : NodeId}
    (h : g.Feeds source target) : source ∈ g.nodes.keys ∧ target ∈ g.nodes.keys := by
  obtain ⟨c, hc, rfl, rfl⟩ := h
  exact hg c hc

section Reachable

variable [IdentitySupply]

/-- A graph that edits and compilations make of an empty one, whether they are refused or not. Nodes
may be put in the place of any others. -/
inductive Reachable : Graph → Prop where
  /-- An empty graph. -/
  | empty (name : String) (kind : GraphKind) : Reachable (.empty name kind)
  /-- Any edit of the graph. -/
  | edit {g : Graph} (edit : Edit) : Reachable g → Reachable (edit.perform g).2
  /-- A compilation into the graph. -/
  | compile {g : Graph} (catalog : Catalog) (settings : Settings) :
    Reachable g → Reachable (sink.compile catalog settings g).2

/-- Graphs that are edited are reachable. -/
theorem Reachable.run (hg : g.Reachable) (edits : List Edit) : (run edits g).Reachable := by
  induction edits generalizing g with
  | nil => exact hg
  | cons edit edits ih => exact ih (hg.edit edit)

theorem Change.closed (h : Change g g') (hg : g.Closed) : g'.Closed := by
  cases h with
  | none => exact hg
  | newNode fresh => exact hg.of_keys (keys_addNode g _) rfl
  | replaced h => exact hg.of_keys (Change.replaced h).keeps.keys rfl
  | @newConnection source sourcePort target targetPort h =>
    obtain ⟨n, n', -, -, hn, hn', -⟩ := h.ports
    intro c hc
    rw [Table.values, connections_addConnection, List.map_append] at hc
    rcases List.mem_append.mp hc with hold | hnew
    · exact hg c hold
    · rw [List.map_singleton, List.mem_singleton] at hnew
      subst hnew
      exact ⟨Table.mem_keys_of_mem (Table.get?_eq_some_iff.mp hn),
        Table.mem_keys_of_mem (Table.get?_eq_some_iff.mp hn')⟩
  | newFrame label => exact hg.of_keys (List.Subset.refl _) rfl
  | refreshed => exact hg.of_keys (List.Subset.refl _) rfl

/-- Any edit keeps the ends of connections, also one that puts a node in the place of another. -/
theorem closed_perform (edit : Edit) (hg : g.Closed) : (edit.perform g).2.Closed := by
  cases edit with
  | addNode type numbers => exact hg.of_keys (keys_addNode g _) rfl
  | addCopy copy => exact hg.of_keys (keys_addNode g _) rfl
  | connect source sourcePort target targetPort =>
    exact Change.closed (change_perform trivial) hg
  | addFrame label => exact Change.closed (change_perform trivial) hg
  | setParent node frame => exact Change.closed (change_perform trivial) hg
  | tagUpdate => exact Change.closed (change_perform trivial) hg
  | request r => exact (change_answer r g).closed hg

theorem Reachable.closed (h : g.Reachable) : g.Closed := by
  induction h with
  | empty name kind => simp [Closed, Graph.empty, Table.empty, Table.values]
  | edit edit _ ih => exact closed_perform edit ih
  | compile catalog settings _ ih =>
    exact GraphSink.compile_preserves (P := Closed)
      (fun request _ hg => (change_answer request _).closed hg)
      (fun _ hg => Change.refreshed.closed hg) catalog settings ih

end Reachable

/-! ### Sorted nodes -/

/-- Nodes in an order in which each is new and comes after all that feed it. -/
inductive Sorted (g : Graph) : List NodeId → Prop where
  /-- No nodes. -/
  | nil : Sorted g []
  /-- One node more. -/
  | concat {placed : List NodeId} {node : NodeId} : Sorted g placed → node ∉ placed →
    (∀ source, g.Feeds source node → source ∈ placed) → Sorted g (placed ++ [node])

namespace Sorted

variable {placed : List NodeId}

theorem nodup (h : g.Sorted placed) : placed.Nodup := by
  induction h with
  | nil => exact List.nodup_nil
  | concat _ hnew _ ih =>
    refine List.Nodup.append ih (List.nodup_singleton _) fun id hid hnode => hnew ?_
    rwa [← List.mem_singleton.mp hnode]

/-- What feeds a node comes before it. -/
theorem idxOf_lt (h : g.Sorted placed) {source target : NodeId} (hmem : target ∈ placed)
    (hfeeds : g.Feeds source target) : placed.idxOf source < placed.idxOf target := by
  induction h with
  | nil => cases hmem
  | @concat front node _ hnew hbefore ih =>
    by_cases htarget : target ∈ front
    · have hlt := ih htarget
      have hsource : source ∈ front :=
        List.idxOf_lt_length_iff.mp (hlt.trans (List.idxOf_lt_length_of_mem htarget))
      rwa [List.idxOf_append_of_mem hsource, List.idxOf_append_of_mem htarget]
    · obtain rfl : target = node := by simpa [htarget] using hmem
      have hsource := hbefore source hfeeds
      rw [List.idxOf_append_of_mem hsource, List.idxOf_append_of_notMem hnew]
      exact Nat.lt_add_right _ (List.idxOf_lt_length_of_mem hsource)

/-- A graph whose nodes can be sorted has no cycle. -/
theorem acyclic (h : g.Sorted placed) (hall : ∀ source target, g.Feeds source target →
    target ∈ placed) : g.Acyclic := by
  have hlt : ∀ source target, TransGen g.Feeds source target →
      placed.idxOf source < placed.idxOf target := by
    intro source target hpath
    induction hpath with
    | single hfeeds => exact h.idxOf_lt (hall _ _ hfeeds) hfeeds
    | tail _ hfeeds ih => exact ih.trans (h.idxOf_lt (hall _ _ hfeeds) hfeeds)
  exact fun id hcycle => lt_irrefl _ (hlt id id hcycle)

end Sorted

/-! ### What the search places -/

/-- A search on its way: what is placed is sorted, and the nodes that wait on the path are not
placed. -/
structure Progress (g : Graph) (path placed : List NodeId) : Prop where
  /-- What is placed is sorted. -/
  sorted : g.Sorted placed
  /-- It consists of nodes of the graph. -/
  inside : ∀ id ∈ placed, id ∈ g.nodes.keys
  /-- The path waits. -/
  waiting : ∀ id ∈ path, id ∉ placed

/-- A search goes on to a state in which some nodes are placed. -/
def Reaches (g : Graph) (path placed nodes placed' : List NodeId) : Prop :=
  g.Progress path placed' ∧ placed <+: placed' ∧ ∀ node ∈ nodes, node ∈ placed'

/-- What holds of the search for each node holds of the search for all. -/
theorem foldlM_reaches {path : List NodeId}
    {place : List NodeId → NodeId → ExceptT OrderError Option (List NodeId)}
    (hplace : ∀ placed node placed', g.Progress path placed → node ∈ g.nodes.keys →
      (place placed node).run = some (.ok placed') → g.Reaches path placed [node] placed')
    {nodes placed placed' : List NodeId} (hnodes : ∀ node ∈ nodes, node ∈ g.nodes.keys)
    (h : g.Progress path placed)
    (hrun : (nodes.foldlM place placed).run = some (.ok placed')) :
    g.Reaches path placed nodes placed' := by
  induction nodes generalizing placed with
  | nil =>
    cases hrun
    exact ⟨h, List.prefix_rfl, fun _ hnode => by cases hnode⟩
  | cons node nodes ih =>
    rw [List.forall_mem_cons] at hnodes
    rw [List.foldlM_cons] at hrun
    obtain ⟨middle, hfirst, hrest⟩ := run_bind_eq_ok.mp hrun
    obtain ⟨hmiddle, hgrows, hplaced⟩ := hplace placed node middle h hnodes.1 hfirst
    obtain ⟨hlast, hgrows', hplaced'⟩ := ih hnodes.2 hmiddle hrest
    exact ⟨hlast, hgrows.trans hgrows',
      List.forall_mem_cons.mpr ⟨hgrows'.mem (hplaced node List.mem_cons_self), hplaced'⟩⟩

/-- **One node**: the search places it behind all that it depends on. -/
theorem placeNode_reaches (hg : g.Closed) {fuel : Nat} {path placed placed' : List NodeId}
    {node : NodeId} (h : g.Progress path placed) (hnode : node ∈ g.nodes.keys)
    (hrun : (g.placeNode fuel path placed node).run = some (.ok placed')) :
    g.Reaches path placed [node] placed' := by
  induction fuel generalizing path placed placed' node with
  | zero => cases hrun
  | succ fuel ih =>
    rw [placeNode] at hrun
    by_cases hplaced : node ∈ placed
    · rw [if_pos hplaced] at hrun
      cases hrun
      exact ⟨h, List.prefix_rfl, fun _ hmem => List.mem_singleton.mp hmem ▸ hplaced⟩
    · by_cases hpath : node ∈ path
      · rw [if_neg hplaced, if_pos hpath] at hrun
        cases hrun
      · rw [if_neg hplaced, if_neg hpath] at hrun
        obtain ⟨middle, hdeps, hlast⟩ := run_bind_eq_ok.mp hrun
        cases hlast
        have hsources : ∀ source ∈ g.dependencies node, source ∈ g.nodes.keys :=
          fun source hsource => (hg.mem_of_feeds (mem_dependencies.mp hsource)).1
        obtain ⟨hmiddle, hgrows, hbefore⟩ := foldlM_reaches
          (fun _ _ _ hp hn hr => ih hp hn hr) hsources
          ⟨h.sorted, h.inside, List.forall_mem_cons.mpr ⟨hplaced, h.waiting⟩⟩ hdeps
        have hwaiting := List.forall_mem_cons.mp hmiddle.waiting
        refine ⟨⟨?_, ?_, ?_⟩, hgrows.trans (List.prefix_append _ _), by simp⟩
        · exact hmiddle.sorted.concat hwaiting.1 fun source hfeeds =>
            hbefore source (mem_dependencies.mpr hfeeds)
        · exact List.forall_mem_append.mpr
            ⟨hmiddle.inside, fun id hid => List.mem_singleton.mp hid ▸ hnode⟩
        · intro id hid hmem
          rcases List.mem_append.mp hmem with hmem | hmem
          · exact hwaiting.2 id hid hmem
          · exact hpath (List.mem_singleton.mp hmem ▸ hid)

/-- What a search from all nodes places is an order of the nodes. -/
theorem sorted_of_search (hg : g.Closed) {fuel : Nat} {order : List NodeId}
    (h : g.search fuel = some (.ok order)) : g.Sorted order ∧ order.Perm g.nodes.keys := by
  have hstart : g.Progress [] [] := ⟨.nil, by simp, by simp⟩
  obtain ⟨hprogress, -, hall⟩ := foldlM_reaches
    (fun _ _ _ hp hn hr => placeNode_reaches hg hp hn hr) (fun _ hnode => hnode) hstart h
  exact ⟨hprogress.sorted, (List.perm_ext_iff_of_nodup hprogress.sorted.nodup
    g.nodes.nodup_keys).mpr fun id => ⟨hprogress.inside id, hall id⟩⟩

/-! ### When the search reports a cycle -/

/-- A search for nodes that reports a cycle reports it at one of them. -/
theorem exists_of_foldlM_eq_error
    {place : List NodeId → NodeId → ExceptT OrderError Option (List NodeId)}
    {nodes placed : List NodeId} (h : (nodes.foldlM place placed).run = some (.error .cycle)) :
    ∃ node ∈ nodes, ∃ placed', (place placed' node).run = some (.error .cycle) := by
  induction nodes generalizing placed with
  | nil => cases h
  | cons node nodes ih =>
    rw [List.foldlM_cons] at h
    rcases run_bind_eq_error.mp h with hfirst | ⟨middle, -, hrest⟩
    · exact ⟨node, List.mem_cons_self, placed, hfirst⟩
    · obtain ⟨other, hmem, herror⟩ := ih hrest
      exact ⟨other, List.mem_cons_of_mem _ hmem, herror⟩

/-- A node that feeds a chain in which it stands is on a cycle. -/
theorem not_acyclic_of_chain {path : List NodeId} {node : NodeId}
    (h : (node :: path).IsChain g.Feeds) (hmem : node ∈ path) : ¬ g.Acyclic := by
  have hpaths : (node :: path).IsChain (TransGen g.Feeds) := h.imp fun _ _ => TransGen.single
  exact fun hacyclic => hacyclic node (List.rel_of_pairwise_cons hpaths.pairwise hmem)

/-- **The search reports a cycle only where there is one**: its path is a chain of nodes each of
which feeds the one before. -/
theorem not_acyclic_of_placeNode {fuel : Nat} {path placed : List NodeId} {node : NodeId}
    (hchain : (node :: path).IsChain g.Feeds)
    (h : (g.placeNode fuel path placed node).run = some (.error .cycle)) : ¬ g.Acyclic := by
  induction fuel generalizing path placed node with
  | zero => cases h
  | succ fuel ih =>
    rw [placeNode] at h
    by_cases hplaced : node ∈ placed
    · rw [if_pos hplaced] at h
      cases h
    · by_cases hpath : node ∈ path
      · exact not_acyclic_of_chain hchain hpath
      · rw [if_neg hplaced, if_neg hpath] at h
        rcases run_bind_eq_error.mp h with hdeps | ⟨middle, -, hlast⟩
        · obtain ⟨source, hsource, placed', herror⟩ := exists_of_foldlM_eq_error hdeps
          exact ih (List.isChain_cons_cons.mpr ⟨mem_dependencies.mp hsource, hchain⟩) herror
        · cases hlast

/-- A search that has come to its end has an order exactly if there is no cycle, and otherwise
reports one. -/
theorem search_cases (hg : g.Closed) {fuel : Nat} {outcome : Except OrderError (List NodeId)}
    (h : g.search fuel = some outcome) :
    g.Acyclic ∧ (∃ order, outcome = .ok order) ∨ ¬ g.Acyclic ∧ outcome = .error .cycle := by
  cases outcome with
  | ok order =>
    obtain ⟨hsorted, hperm⟩ := sorted_of_search hg h
    refine .inl ⟨hsorted.acyclic fun _ _ hfeeds => ?_, order, rfl⟩
    exact hperm.mem_iff.mpr (hg.mem_of_feeds hfeeds).2
  | error error =>
    cases error
    obtain ⟨node, -, placed, herror⟩ := exists_of_foldlM_eq_error h
    exact .inr ⟨not_acyclic_of_placeNode (List.isChain_singleton node) herror, rfl⟩

/-! ### Fuel -/

/-- What a search for one node says with some fuel, a search for several says of several. -/
theorem foldlM_eq_some_of_imp
    {place place' : List NodeId → NodeId → ExceptT OrderError Option (List NodeId)}
    (himp : ∀ placed node outcome, (place placed node).run = some outcome →
      (place' placed node).run = some outcome)
    {nodes placed : List NodeId} {outcome : Except OrderError (List NodeId)}
    (h : (nodes.foldlM place placed).run = some outcome) :
    (nodes.foldlM place' placed).run = some outcome := by
  induction nodes generalizing placed with
  | nil => exact h
  | cons node nodes ih =>
    rw [List.foldlM_cons] at h ⊢
    exact run_bind_mono (himp placed node) (fun _ => ih) h

/-- What the search for a node says, it also says with more fuel. -/
theorem placeNode_of_le {fuel fuel' : Nat} (hle : fuel ≤ fuel') {path placed : List NodeId}
    {node : NodeId} {outcome : Except OrderError (List NodeId)}
    (h : (g.placeNode fuel path placed node).run = some outcome) :
    (g.placeNode fuel' path placed node).run = some outcome := by
  induction fuel generalizing fuel' path placed node outcome with
  | zero => cases h
  | succ fuel ih =>
    obtain ⟨fuel', rfl⟩ : ∃ more, fuel' = more + 1 := ⟨fuel' - 1, by omega⟩
    rw [placeNode] at h ⊢
    by_cases hplaced : node ∈ placed
    · rwa [if_pos hplaced] at h ⊢
    · by_cases hpath : node ∈ path
      · rwa [if_neg hplaced, if_pos hpath] at h ⊢
      · rw [if_neg hplaced, if_neg hpath] at h ⊢
        refine run_bind_mono (fun _ hdeps => ?_) (fun _ hlast => hlast) h
        exact foldlM_eq_some_of_imp (fun _ _ _ => ih (Nat.le_of_succ_le_succ hle)) hdeps

theorem search_of_le {fuel fuel' : Nat} (hle : fuel ≤ fuel')
    {outcome : Except OrderError (List NodeId)} (h : g.search fuel = some outcome) :
    g.search fuel' = some outcome :=
  foldlM_eq_some_of_imp (fun _ _ _ => placeNode_of_le hle) h

/-! ### The order -/

/-- The order is what the search has said when it ended. -/
theorem search_eq_topologicalOrder (g : Graph) :
    g.search (g.connections.size + 2) = some g.topologicalOrder :=
  (Option.some_get _).symm

/-- **The order of dependence** of a reachable graph: there is one exactly if there is no cycle, and
a cycle is reported exactly if there is one. The order has every node of the graph once and no
others, and the source of every connection comes before its target. The search for it ends: it never
uses up its fuel, whether there is a cycle or not, and says the same with any more fuel. -/
theorem topologicalOrder_iff [IdentitySupply] (hg : g.Reachable) :
    ((∃ order, g.topologicalOrder = .ok order) ↔ g.Acyclic) ∧
    (g.topologicalOrder = .error .cycle ↔ ¬ g.Acyclic) ∧
    (∀ order, g.topologicalOrder = .ok order →
      order.Perm g.nodes.keys ∧ order.Nodup ∧ ∀ c ∈ g.connections.values,
        c.target ∈ order ∧ order.idxOf c.source < order.idxOf c.target) ∧
    ∀ fuel, g.connections.size + 2 ≤ fuel → g.search fuel = some g.topologicalOrder := by
  have hsearch := search_eq_topologicalOrder g
  have hcases := search_cases hg.closed hsearch
  refine ⟨?_, ?_, fun order horder => ?_, fun fuel hfuel => search_of_le hfuel hsearch⟩
  · rcases hcases with ⟨hacyclic, horder⟩ | ⟨hcycle, herror⟩
    · exact iff_of_true horder hacyclic
    · simp [hcycle, herror]
  · rcases hcases with ⟨hacyclic, order, horder⟩ | ⟨hcycle, herror⟩
    · simp [hacyclic, horder]
    · exact iff_of_true herror hcycle
  · obtain ⟨hsorted, hperm⟩ := sorted_of_search hg.closed (horder ▸ hsearch)
    refine ⟨hperm, hsorted.nodup, fun c hc => ?_⟩
    have hfeeds : g.Feeds c.source c.target := ⟨c, hc, rfl, rfl⟩
    have hmem : c.target ∈ order :=
      hperm.mem_iff.mpr (hg.closed.mem_of_feeds hfeeds).2
    exact ⟨hmem, hsorted.idxOf_lt hmem hfeeds⟩

/-- The second of two nodes feeds the first. -/
def backLinked : List Edit := [
  .addNode NodeKind.attributeMath.nodeType (.consecutive 7),
  .request (.createNode .attributeVectorMath),
  .connect ⟨17⟩ ⟨27⟩ ⟨7⟩ ⟨8⟩]

/-- Two linked nodes, and two of a formula. -/
def backLinkedArea : Graph :=
  (sink.compile .builtin ⟨"4 5 * sin", "mf_temp", true⟩
    (run backLinked (empty "Areas" .geometry))).2

/-- The second node stands before the first. Once the first feeds it in turn, there is no order. -/
theorem topologicalOrder_iff_backLinkedArea :
    backLinkedArea.Reachable ∧ backLinkedArea.Acyclic ∧
      backLinkedArea.topologicalOrder = .ok [⟨17⟩, ⟨7⟩, ⟨29⟩, ⟨39⟩] ∧
      ¬ (run [.connect ⟨7⟩ ⟨16⟩ ⟨17⟩ ⟨18⟩] backLinkedArea).Acyclic := by
  have hg : backLinkedArea.Reachable := ((Reachable.empty _ _).run backLinked).compile _ _
  have hcircle := hg.run [.connect ⟨7⟩ ⟨16⟩ ⟨17⟩ ⟨18⟩]
  obtain ⟨horder, hcycle⟩ :
      backLinkedArea.topologicalOrder = .ok [⟨17⟩, ⟨7⟩, ⟨29⟩, ⟨39⟩] ∧
      (run [.connect ⟨7⟩ ⟨16⟩ ⟨17⟩ ⟨18⟩] backLinkedArea).topologicalOrder = .error .cycle := by
    decide +kernel
  exact ⟨hg, (topologicalOrder_iff hg).1.mp ⟨_, horder⟩, horder,
    (topologicalOrder_iff hcircle).2.1.mp hcycle⟩

end FormulaChain.Graph
