import FormulaChain.Proofs.Graph.Basic

/-!
# Requests to a graph

A request is either refused, and then the graph stays as it was, or accepted, and then it is known
what was found in the graph and what has changed (`changeNode_cases`, `writeInput_cases`,
`linkNamed_cases`, `assignToFrame_cases`). In particular no refused request leaves a trace
(`answer_of_error`).
-/

namespace FormulaChain.Graph

/-- The graph refuses and stays as it is. -/
def Refuses {α : Type} (g : Graph) (outcome : Except Refusal α × Graph) : Prop :=
  ∃ e, outcome = (.error e, g)

/-- Where there is an error, what is a refusal or an answer is a refusal. -/
theorem eq_of_error {α : Type} {g : Graph} {outcome : Except Refusal α × Graph} {e : Refusal}
    (hcases : g.Refuses outcome ∨ ∃ a, outcome.1 = .ok a) (h : outcome.1 = .error e) :
    outcome.2 = g := by
  rcases hcases with ⟨e', rfl⟩ | ⟨a, ha⟩
  · rfl
  · rw [ha] at h
    cases h

/-- A node is changed if it is there. -/
theorem changeNode_cases (node : NodeId) (f : Node → Node) (g : Graph) :
    g.Refuses (changeNode node f g) ∨
      node ∈ g.nodes.keys ∧ changeNode node f g = (.ok (), g.modifyNode node f) := by
  unfold changeNode
  rw [← Table.contains_iff]
  split
  case isTrue h => exact .inr ⟨h, rfl⟩
  case isFalse h => exact .inl ⟨_, rfl⟩

/-- A value is written if there is an input with the name and with the type of the value. -/
theorem writeInput_cases (node : NodeId) (name : String) (value : SocketValue) (g : Graph) :
    g.Refuses (writeInput node name value g) ∨
      ∃ n port, g.node? node = some n ∧ n.input? name = some port ∧ value.portType = port.type ∧
        writeInput node name value g = (.ok (), g.modifyNode node
          (·.replaceInput port { port with defaultValue := some value })) := by
  cases hn : g.node? node with
  | none => exact .inl ⟨.unknownNode node, by simp [writeInput, hn]⟩
  | some n =>
    cases hport : n.input? name with
    | none => exact .inl ⟨.backend (.portNotFound node name), by simp [writeInput, hn, hport]⟩
    | some port =>
      by_cases htype : value.portType = port.type
      · have hset : port.setDefault value = .ok { port with defaultValue := some value } :=
          if_pos htype
        exact .inr ⟨n, port, rfl, hport, htype, by simp [writeInput, hn, hport, hset]⟩
      · have hset : port.setDefault value = .error ⟨port.name, port.type, value.portType⟩ :=
          if_neg htype
        exact .inl ⟨.backend (.portValue _), by simp [writeInput, hn, hport, hset]; rfl⟩

variable [IdentitySupply]

/-- Two nodes are linked if they have ports with the names, and these can be connected. -/
theorem linkNamed_cases (source : NodeId) (output : String) (target : NodeId) (input : String)
    (g : Graph) :
    g.Refuses (linkNamed source output target input g) ∨
      ∃ n n' sourcePort targetPort, g.node? source = some n ∧ g.node? target = some n' ∧
        n.output? output = some sourcePort ∧ n'.input? input = some targetPort ∧
        g.Connectable source sourcePort.id target targetPort.id ∧
        linkNamed source output target input g =
          (.ok (), g.addConnection source sourcePort.id target targetPort.id) := by
  cases hs : (g.node? source).bind (·.output? output) with
  | none => exact .inl ⟨.backend (.portNotFound source output), by simp [linkNamed, hs]⟩
  | some sourcePort =>
    cases ht : (g.node? target).bind (·.input? input) with
    | none => exact .inl ⟨.backend (.portNotFound target input), by simp [linkNamed, hs, ht]⟩
    | some targetPort =>
      cases hc : g.connect source sourcePort.id target targetPort.id with
      | error e => exact .inl ⟨.backend (.connection e), by simp [linkNamed, hs, ht, hc]⟩
      | ok g' =>
        obtain ⟨n, hn, hout⟩ := Option.bind_eq_some_iff.mp hs
        obtain ⟨n', hn', hin⟩ := Option.bind_eq_some_iff.mp ht
        obtain ⟨hconnectable, rfl⟩ := connect_eq_ok.mp hc
        exact .inr ⟨n, n', sourcePort, targetPort, hn, hn', hout, hin, hconnectable,
          by simp [linkNamed, hs, ht, hc]⟩

/-- A node is put into a frame if both are there. -/
theorem assignToFrame_cases (node : NodeId) (frame : FrameId) (g : Graph) :
    g.Refuses (answer (.assignToFrame node frame) g) ∨
      frame ∈ g.frames.keys ∧ node ∈ g.nodes.keys ∧ answer (.assignToFrame node frame) g =
        (.ok (), g.modifyNode node fun n => { n with parent := some frame }) := by
  cases hs : g.setParent node frame with
  | error e => exact .inl ⟨.backend e, by simp [answer, hs]⟩
  | ok g' =>
    obtain ⟨hframe, hnode, rfl⟩ := setParent_eq_ok.mp hs
    exact .inr ⟨hframe, hnode, by simp [answer, hs]⟩

/-- **A refused request changes nothing.** -/
theorem answer_of_error {request : Request NodeId FrameId} {g : Graph} {e : Refusal}
    (h : (answer request g).1 = .error e) : (answer request g).2 = g := by
  have hchange (node : NodeId) (f : Node → Node) : g.Refuses (changeNode node f g) ∨
      ∃ a, (changeNode node f g).1 = .ok a :=
    (changeNode_cases node f g).imp_right fun ⟨_, heq⟩ => ⟨(), congrArg Prod.fst heq⟩
  cases request with
  | ensureReady => rfl
  | createNode kind => cases h
  | nodeLayout node => rfl
  | setPosition node position => exact eq_of_error (hchange node _) h
  | setOperation node operation => exact eq_of_error (hchange node _) h
  | setInputKind node slot kind => exact eq_of_error (hchange node _) h
  | setInputValue node socket value =>
    refine eq_of_error ((writeInput_cases node socket.name value g).imp_right ?_) h
    rintro ⟨n, port, -, -, -, heq⟩
    exact ⟨(), congrArg Prod.fst heq⟩
  | connect source output target input =>
    refine eq_of_error ((linkNamed_cases source output.name target input.name g).imp_right ?_) h
    rintro ⟨n, n', sourcePort, targetPort, -, -, -, -, -, heq⟩
    exact ⟨(), congrArg Prod.fst heq⟩
  | createFrame label => cases h
  | assignToFrame node frame =>
    refine eq_of_error ((assignToFrame_cases node frame g).imp_right ?_) h
    rintro ⟨-, -, heq⟩
    exact ⟨(), congrArg Prod.fst heq⟩

end FormulaChain.Graph
