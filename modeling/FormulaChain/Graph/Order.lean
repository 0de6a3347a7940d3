import FormulaChain.Graph.Basic

/-!
# The order of dependence

The nodes of a graph in an order in which every connection leaves a node before the one it enters.
Nodes are taken in the order they were added, each after all that it depends on, searched depth
first. A node that is met again on its own path closes a cycle.

The search is given fuel for the length of its path. To use it up is an outcome of its own, neither
an order nor a cycle, and one that fuel for all connections rules out: each node put on the path
leaves fewer connections that end elsewhere (`length_pending_cons`). So the order of a graph is
found by a search that has come to its end (`search_isSome`).
-/

namespace FormulaChain.Graph

variable {g : Graph}

/-- The nodes that connections into a node come from. -/
def dependencies (g : Graph) (node : NodeId) : List NodeId := (g.connectionsTo node).map (·.source)

/-- Appends a node to those placed, after all that it depends on. The path holds the nodes that wait
for this one. A path that fuel does not suffice for leaves the search without an outcome. -/
def placeNode (g : Graph) : Nat → List NodeId → List NodeId → NodeId →
    ExceptT OrderError Option (List NodeId)
  | 0, _, _, _ => .mk none
  | fuel + 1, path, placed, node =>
    if node ∈ placed then return placed
    else if node ∈ path then throw .cycle
    else do
      let placed ← (g.dependencies node).foldlM (placeNode g fuel (node :: path)) placed
      return placed ++ [node]

/-- Searches for an order of all nodes, along paths that fuel suffices for. -/
def search (g : Graph) (fuel : Nat) : Option (Except OrderError (List NodeId)) :=
  (g.nodes.keys.foldlM (g.placeNode fuel []) []).run

/-! ### The end of the search -/

/-- The connections that end off a path. -/
def pending (g : Graph) (path : List NodeId) : List Connection :=
  g.connections.values.filter fun c => c.target ∉ path

/-- A node that is put on a path takes the connections into it from those that end elsewhere. -/
theorem length_pending_cons {path : List NodeId} {node : NodeId} (hpath : node ∉ path)
    (hdeps : g.dependencies node ≠ []) :
    (g.pending (node :: path)).length < (g.pending path).length := by
  have hfilter : g.pending (node :: path) =
      (g.pending path).filter fun c => c.target ≠ node := by
    simp [pending, List.filter_filter]
  obtain ⟨source, hsource⟩ := List.exists_mem_of_ne_nil _ hdeps
  obtain ⟨c, hc, -⟩ := List.mem_map.mp hsource
  obtain ⟨hmem, htarget⟩ := List.mem_filter.mp hc
  have htarget := of_decide_eq_true htarget
  rw [hfilter, List.length_filter_lt_length_iff_exists]
  exact ⟨c, List.mem_filter.mpr ⟨hmem, by simpa [htarget] using hpath⟩, by simp [htarget]⟩

/-- A search for nodes ends if the search for each of them does. -/
theorem foldlM_isSome {place : List NodeId → NodeId → ExceptT OrderError Option (List NodeId)}
    {nodes placed : List NodeId}
    (h : ∀ node ∈ nodes, ∀ placed, (place placed node).run.isSome) :
    (nodes.foldlM place placed).run.isSome := by
  induction nodes generalizing placed with
  | nil => rfl
  | cons node nodes ih =>
    rw [List.forall_mem_cons] at h
    obtain ⟨outcome, houtcome⟩ := Option.isSome_iff_exists.mp (h.1 placed)
    rw [List.foldlM_cons, ExceptT.run_bind, houtcome]
    cases outcome with
    | error error => rfl
    | ok placed' => exact ih h.2

/-- The search for a node ends with fuel for the connections that end off its path. -/
theorem placeNode_isSome {fuel : Nat} {path placed : List NodeId} {node : NodeId}
    (hfuel : (g.pending path).length < fuel) : (g.placeNode fuel path placed node).run.isSome := by
  induction fuel generalizing path placed node with
  | zero => exact absurd hfuel (Nat.not_lt_zero _)
  | succ fuel ih =>
    rw [placeNode]
    split
    · rfl
    split
    · rfl
    next hpath =>
      have hdeps : ((g.dependencies node).foldlM (g.placeNode fuel (node :: path))
          placed).run.isSome := by
        refine foldlM_isSome fun source hsource placed => ih ?_
        exact Nat.lt_of_lt_of_le (length_pending_cons hpath (List.ne_nil_of_mem hsource))
          (Nat.le_of_lt_succ hfuel)
      obtain ⟨outcome, houtcome⟩ := Option.isSome_iff_exists.mp hdeps
      rw [ExceptT.run_bind, houtcome]
      cases outcome <;> rfl

/-- The search ends with fuel for all connections. -/
theorem search_isSome {fuel : Nat} (hfuel : g.connections.size < fuel) :
    (g.search fuel).isSome := by
  refine foldlM_isSome fun node _ placed => placeNode_isSome (Nat.lt_of_le_of_lt ?_ hfuel)
  have hle : (g.pending []).length ≤ g.connections.values.length := List.length_filter_le _ _
  rwa [Table.values, List.length_map] at hle

/-- The nodes in an order of dependence, as the search finds it with fuel to come to its end. -/
def topologicalOrder (g : Graph) : Except OrderError (List NodeId) :=
  (g.search (g.connections.size + 2)).get (search_isSome (Nat.lt_add_of_pos_right (by decide)))

end FormulaChain.Graph
