import FormulaChain.Proofs.Graph.Node
import FormulaChain.Proofs.Graph.Request

/-!
# Edits of a graph

A graph is edited in many ways, by identities of nodes and ports or by requests that name sockets,
and any edit may be refused. All that an edit can ever do is one of a few changes (`Change`,
`change_perform`), and one that is refused does nothing at all (`perform_of_error`).

A change leaves every node in its place, with the same ports, and with default values that fit if
they fitted before (`keeps_run`).
-/

namespace FormulaChain

/-- The default value of the port, if any, has its type. -/
def Port.DefaultFits (p : Port) : Prop := ∀ value ∈ p.defaultValue, value.portType = p.type

instance (p : Port) : Decidable p.DefaultFits :=
  inferInstanceAs (Decidable (∀ value ∈ p.defaultValue, value.portType = p.type))

/-- Every default value of the node has the type of its port. -/
def Node.DefaultsFit (n : Node) : Prop := ∀ p ∈ n.ports, p.DefaultFits

/-- The default values of a new node fit if those of its type do. -/
theorem Node.defaultsFit_ofType {type : NodeType} {numbers : Numbering}
    (h : ∀ p ∈ type.inputs ++ type.outputs, p.DefaultFits) :
    (Node.ofType type numbers).DefaultsFit := by
  have hports {start : Nat} {models : List Port} (hm : ∀ p ∈ models, p.DefaultFits) :
      ∀ p ∈ instantiatePorts numbers start models, p.DefaultFits := by
    intro p hp
    obtain ⟨i, hi, rfl⟩ := List.mem_mapIdx.mp hp
    exact hm models[i] (List.getElem_mem hi)
  intro p hp
  rcases List.mem_append.mp hp with hin | hout
  · exact hports (fun q hq => h q (List.mem_append_left _ hq)) p hin
  · exact hports (fun q hq => h q (List.mem_append_right _ hq)) p hout

/-- The default values of the types of geometry graphs fit. -/
theorem NodeRegistry.defaultFits {type : NodeType} (h : type ∈ NodeRegistry.geometry.values) :
    ∀ p ∈ type.inputs ++ type.outputs, p.DefaultFits := by
  have hall : ∀ type ∈ NodeRegistry.geometry.values,
      ∀ p ∈ type.inputs ++ type.outputs, p.DefaultFits := by decide +kernel
  exact hall type h

namespace Graph

variable {g g' g'' : Graph}

/-! ### Replaced nodes -/

/-- What a node may be replaced by: a node with the same ports. Their default values may be others,
but they fit if those before do, and the node lies where it did or in another frame of the graph. -/
structure MayReplace (g : Graph) (n n' : Node) : Prop where
  /-- The identity stays. -/
  id : n'.id = n.id
  /-- The ports stay. -/
  outline : n'.outline = n.outline
  /-- Fitting default values are replaced by fitting ones. -/
  defaults : n.DefaultsFit → n'.DefaultsFit
  /-- A new frame is there. -/
  parent : ∀ frame, n'.parent = some frame → n.parent = some frame ∨ frame ∈ g.frames.keys

theorem MayReplace.refl (g : Graph) (n : Node) : g.MayReplace n n :=
  ⟨rfl, rfl, fun h => h, fun _ h => .inl h⟩

/-- A node may be given a default value that fits. -/
theorem mayReplace_replaceInput (n : Node) {port : Port} {value : SocketValue}
    (h : value.portType = port.type) :
    g.MayReplace n (n.replaceInput port { port with defaultValue := some value }) := by
  refine ⟨rfl, n.outline_replaceInput rfl, fun hfit p hp => ?_, fun _ hparent => .inl hparent⟩
  rcases List.mem_append.mp hp with hin | hout
  · rcases mem_or_eq_of_mem_replace hin with hin | rfl
    · exact hfit p (List.mem_append_left _ hin)
    · rintro _ ⟨⟩
      exact h
  · exact hfit p (List.mem_append_right _ hout)

/-! ### Nodes stay -/

/-- Every node is still there, with the same ports, and with default values that fit if they did. -/
def Keeps (g g' : Graph) : Prop :=
  ∀ id n, g.node? id = some n →
    ∃ n', g'.node? id = some n' ∧ n'.outline = n.outline ∧ (n.DefaultsFit → n'.DefaultsFit)

theorem Keeps.refl (g : Graph) : Keeps g g := fun _ n hn => ⟨n, hn, rfl, fun h => h⟩

theorem Keeps.trans (h : Keeps g g') (h' : Keeps g' g'') : Keeps g g'' := by
  intro id n hn
  obtain ⟨n', hn', hout, hfit⟩ := h id n hn
  obtain ⟨n'', hn'', hout', hfit'⟩ := h' id n' hn'
  exact ⟨n'', hn'', hout'.trans hout, fun hd => hfit' (hfit hd)⟩

theorem Keeps.of_nodes (h : g'.nodes = g.nodes) : Keeps g g' := by
  intro id n hn
  refine ⟨n, ?_, rfl, fun hd => hd⟩
  rwa [node?, h]

/-- A node known by new numbers is not there. -/
theorem notMem_keys_of_fresh {type : NodeType} {numbers : Numbering}
    (h : ∀ number ∈ (Node.ofType type numbers).numbers, number ∉ g.numbers) :
    (Node.ofType type numbers).id ∉ g.nodes.keys :=
  fun hmem => h numbers.first List.mem_cons_self (node_mem_numbers hmem)

/-! ### Edits -/

/-- A way to edit a graph. -/
inductive Edit where
  /-- A node of a type is added, known by the numbers given. -/
  | addNode (type : NodeType) (numbers : Numbering)
  /-- A node is put in the place of the one with its identity. -/
  | addCopy (copy : Node)
  /-- Two ports are connected. -/
  | connect (source : NodeId) (sourcePort : PortId) (target : NodeId) (targetPort : PortId)
  /-- A frame is added. -/
  | addFrame (label : String)
  /-- A node is put into a frame. -/
  | setParent (node : NodeId) (frame : FrameId)
  /-- A refresh is counted, as it also is when the graph is refreshed as a sink. -/
  | tagUpdate
  /-- The graph is asked for something as a sink. -/
  | request (request : Request NodeId FrameId)

variable [IdentitySupply]

namespace Edit

/-- Whether an edit is refused, and what becomes of the graph. -/
def perform : Edit → Graph → Except Refusal Unit × Graph
  | .addNode type numbers, g => (.ok (), g.addNode (.ofType type numbers))
  | .addCopy copy, g => (.ok (), g.addNode copy)
  | .connect source sourcePort target targetPort, g =>
    match g.connect source sourcePort target targetPort with
    | .error e => (.error (.backend (.connection e)), g)
    | .ok g => (.ok (), g)
  | .addFrame label, g => (.ok (), g.addFrame (g.newFrame label))
  | .setParent node frame, g =>
    match g.setParent node frame with
    | .error e => (.error (.backend e), g)
    | .ok g => (.ok (), g)
  | .tagUpdate, g => (.ok (), g.tagUpdate)
  | .request r, g => ((answer r g).1.map fun _ => (), (answer r g).2)

/-- What is asked of an edit: the numbers of a new node are in nobody's use, and a copy may replace
the node that it is a copy of. -/
def Allowed (g : Graph) : Edit → Prop
  | .addNode type numbers => ∀ number ∈ (Node.ofType type numbers).numbers, number ∉ g.numbers
  | .addCopy copy => ∃ n, g.node? copy.id = some n ∧ g.MayReplace n copy
  | _ => True

/-- The type of the node that an edit makes, and the numbers that it is given. -/
def made? (g : Graph) : Edit → Option (NodeType × Numbering)
  | .addNode type numbers => some (type, numbers)
  | .request (.createNode kind) => some (kind.nodeType, g.nextNumbers)
  | _ => none

end Edit

/-- **A refused edit changes nothing.** -/
theorem perform_of_error {edit : Edit} {e : Refusal} (h : (edit.perform g).1 = .error e) :
    (edit.perform g).2 = g := by
  cases edit with
  | addNode type numbers => cases h
  | addCopy copy => cases h
  | connect source sourcePort target targetPort =>
    cases hc : g.connect source sourcePort target targetPort with
    | error e => simp [Edit.perform, hc]
    | ok g' => simp [Edit.perform, hc] at h
  | addFrame label => cases h
  | setParent node frame =>
    cases hs : g.setParent node frame with
    | error e => simp [Edit.perform, hs]
    | ok g' => simp [Edit.perform, hs] at h
  | tagUpdate => cases h
  | request r =>
    cases ha : (answer r g).1 with
    | error e => exact answer_of_error ha
    | ok a => simp [Edit.perform, ha, Except.map] at h

/-! ### Changes -/

/-- What one edit can do to a graph. -/
inductive Change (g : Graph) : Graph → Prop where
  /-- Nothing. -/
  | none : Change g g
  /-- A node is new. -/
  | newNode {type : NodeType} {numbers : Numbering}
      (fresh : ∀ number ∈ (Node.ofType type numbers).numbers, number ∉ g.numbers) :
      Change g (g.addNode (.ofType type numbers))
  /-- A node is replaced. -/
  | replaced {id : NodeId} {f : Node → Node} (h : ∀ n, g.node? id = some n → g.MayReplace n (f n)) :
      Change g (g.modifyNode id f)
  /-- A connection is new. -/
  | newConnection {source : NodeId} {sourcePort : PortId} {target : NodeId} {targetPort : PortId}
      (h : g.Connectable source sourcePort target targetPort) :
      Change g (g.addConnection source sourcePort target targetPort)
  /-- A frame is new. -/
  | newFrame (label : String) : Change g (g.addFrame (g.newFrame label))
  /-- A refresh is counted. -/
  | refreshed : Change g g.tagUpdate

/-- A node made now is known by new numbers. -/
theorem notMem_numbers_of_next {type : NodeType} {number : Nat}
    (h : number ∈ (Node.ofType type g.nextNumbers).numbers) : number ∉ g.numbers := by
  rw [Node.numbers_ofType] at h
  obtain ⟨i, -, rfl⟩ := List.mem_map.mp h
  exact next_notMem_numbers g i

theorem Change.of_refuses {α : Type} {outcome : Except Refusal α × Graph}
    (h : g.Refuses outcome) : Change g outcome.2 := by
  obtain ⟨e, rfl⟩ := h
  exact .none

theorem change_changeNode (node : NodeId) {f : Node → Node} (h : ∀ n, g.MayReplace n (f n)) :
    Change g (changeNode node f g).2 := by
  rcases changeNode_cases node f g with hr | ⟨-, heq⟩
  · exact .of_refuses hr
  · rw [heq]
    exact .replaced fun n _ => h n

theorem change_assignToFrame (node : NodeId) {frame : FrameId} (h : frame ∈ g.frames.keys) :
    Change g (g.modifyNode node fun n => { n with parent := some frame }) := by
  refine .replaced fun n _ => ⟨rfl, rfl, fun hfit => hfit, ?_⟩
  rintro _ ⟨⟩
  exact .inr h

theorem change_answer (request : Request NodeId FrameId) (g : Graph) :
    Change g (answer request g).2 := by
  cases request with
  | ensureReady => exact .none
  | createNode kind => exact .newNode fun _ h => notMem_numbers_of_next h
  | nodeLayout node => exact .none
  | setPosition node position => exact change_changeNode node fun n => { MayReplace.refl g n with }
  | setOperation node operation =>
    exact change_changeNode node fun n => { MayReplace.refl g n with }
  | setInputKind node slot kind =>
    exact change_changeNode node fun n => { MayReplace.refl g n with }
  | setInputValue node socket value =>
    rcases writeInput_cases node socket.name value g with hr | ⟨n, port, -, -, htype, heq⟩
    · exact .of_refuses hr
    · show Change g (writeInput node socket.name value g).2
      rw [heq]
      exact .replaced fun n _ => mayReplace_replaceInput n htype
  | connect source output target input =>
    rcases linkNamed_cases source output.name target input.name g with
      hr | ⟨n, n', sourcePort, targetPort, -, -, -, -, hconnectable, heq⟩
    · exact .of_refuses hr
    · show Change g (linkNamed source output.name target input.name g).2
      rw [heq]
      exact .newConnection hconnectable
  | createFrame label => exact .newFrame label
  | assignToFrame node frame =>
    rcases assignToFrame_cases node frame g with hr | ⟨hframe, -, heq⟩
    · exact .of_refuses hr
    · rw [heq]
      exact change_assignToFrame node hframe

/-- **What edits do.** -/
theorem change_perform {edit : Edit} (h : edit.Allowed g) : Change g (edit.perform g).2 := by
  cases edit with
  | addNode type numbers => exact .newNode h
  | addCopy copy =>
    obtain ⟨n, hn, hreplace⟩ := h
    have hmem : copy.id ∈ g.nodes.keys := Table.mem_keys_of_mem (Table.get?_eq_some_iff.mp hn)
    have hadd : g.addNode copy = g.modifyNode copy.id fun _ => copy := by
      rw [addNode, Table.insert_of_mem hmem, modifyNode]
    show Change g (g.addNode copy)
    rw [hadd]
    refine .replaced fun n' hn' => ?_
    rw [hn] at hn'
    cases hn'
    exact hreplace
  | connect source sourcePort target targetPort =>
    cases hc : g.connect source sourcePort target targetPort with
    | error e => simpa [Edit.perform, hc] using Change.none
    | ok g' =>
      obtain ⟨hconnectable, rfl⟩ := connect_eq_ok.mp hc
      simpa [Edit.perform, hc] using Change.newConnection hconnectable
  | addFrame label => exact .newFrame label
  | setParent node frame =>
    cases hs : g.setParent node frame with
    | error e => simpa [Edit.perform, hs] using Change.none
    | ok g' =>
      obtain ⟨hframe, -, rfl⟩ := setParent_eq_ok.mp hs
      simpa [Edit.perform, hs] using change_assignToFrame node hframe
  | tagUpdate => exact .refreshed
  | request r => exact change_answer r g

theorem Change.keeps (h : Change g g') : Keeps g g' := by
  cases h with
  | none => exact .refl g
  | newNode fresh =>
    intro id n hn
    refine ⟨n, Table.get?_eq_some_iff.mpr ?_, rfl, fun hd => hd⟩
    rw [nodes_addNode (notMem_keys_of_fresh fresh)]
    exact List.mem_append_left _ (Table.get?_eq_some_iff.mp hn)
  | @replaced id f h =>
    intro id' n hn
    have hget : (g.modifyNode id f).node? id' = some (if id' = id then f n else n) := by
      rw [node?, modifyNode, Table.get?_modify]
      exact congrArg (Option.map _) hn
    refine ⟨_, hget, ?_⟩
    split
    case isTrue heq =>
      subst heq
      exact ⟨(h n hn).outline, (h n hn).defaults⟩
    case isFalse => exact ⟨rfl, fun hd => hd⟩
  | newConnection h => exact .of_nodes rfl
  | newFrame label => exact .of_nodes rfl
  | refreshed => exact .of_nodes rfl

/-! ### Runs -/

/-- The graph after some edits, refused or not. -/
def run (edits : List Edit) (g : Graph) : Graph :=
  edits.foldl (fun g edit => (edit.perform g).2) g

/-- Each edit is allowed when it comes. -/
def AllAllowed : List Edit → Graph → Prop
  | [], _ => True
  | edit :: edits, g => edit.Allowed g ∧ AllAllowed edits (edit.perform g).2

theorem run_append (before after : List Edit) (g : Graph) :
    run (before ++ after) g = run after (run before g) := by
  simp [run]

theorem allAllowed_append {before after : List Edit} :
    AllAllowed (before ++ after) g ↔ AllAllowed before g ∧ AllAllowed after (run before g) := by
  induction before generalizing g with
  | nil => simp [AllAllowed, run]
  | cons edit before ih =>
    show edit.Allowed g ∧ AllAllowed (before ++ after) (edit.perform g).2 ↔ _
    rw [ih, ← and_assoc]
    rfl

/-- What every change preserves holds after any edits. -/
theorem run_induction {P : Graph → Prop} (hP : ∀ {g g'}, Change g g' → P g → P g')
    {edits : List Edit} (h : AllAllowed edits g) (hg : P g) : P (run edits g) := by
  induction edits generalizing g with
  | nil => exact hg
  | cons edit edits ih => exact ih h.2 (hP (change_perform h.1) hg)

/-- Any edits leave every node there, and its ports as they are. -/
theorem keeps_run {edits : List Edit} (h : AllAllowed edits g) : Keeps g (run edits g) :=
  run_induction (fun hc hk => hk.trans hc.keeps) h (.refl g)

/-- A node that an edit makes is there. -/
theorem node?_of_made? {edit : Edit} {type : NodeType} {numbers : Numbering}
    (h : edit.Allowed g) (hmade : edit.made? g = some (type, numbers)) :
    (edit.perform g).2.node? ⟨numbers.first⟩ = some (.ofType type numbers) := by
  have hadded (hfresh : (Node.ofType type numbers).id ∉ g.nodes.keys) :
      (g.addNode (.ofType type numbers)).node? ⟨numbers.first⟩ =
        some (.ofType type numbers) := by
    rw [node?, Table.get?_eq_some_iff, nodes_addNode hfresh]
    exact List.mem_append_right _ List.mem_cons_self
  cases edit with
  | addNode type numbers =>
    cases hmade
    exact hadded (notMem_keys_of_fresh h)
  | request r =>
    cases r with
    | createNode kind =>
      cases hmade
      exact hadded next_notMem_nodes
    | _ => cases hmade
  | _ => cases hmade

end Graph

end FormulaChain
