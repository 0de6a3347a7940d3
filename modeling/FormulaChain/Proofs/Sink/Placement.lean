import FormulaChain.Proofs.Sink.Recording

/-!
# Where nodes are placed

A sink says where nodes stand and how wide they are, and a build places each node by what the sink
says of the one before. Two sinks that say different things of this, but are otherwise the same
(`DiffersInLayout`), get the same build: its requests differ in positions only, and so do the
outputs (`DiffersInLayout.compile`).

In particular a recording sink whose nodes have any widths, and which shows them displaced by any
offset, records the same nodes, links and frames (`Recording.compile_sinkWithLayout`).
-/

namespace FormulaChain

variable {σ σ' N F E α α' β β' γ δ : Type}

/-! ### Runs that go alike -/

/-- The same failure, or related answers. -/
def AnswersAlike (S : α → α' → Prop) : Except E α → Except E α' → Prop
  | .ok a, .ok a' => S a a'
  | .error e, .error e' => e = e'
  | _, _ => False

/-- From related states two runs give related answers, or fail alike, and leave related states. -/
def RunsAlike (R : σ → σ' → Prop) (S : α → α' → Prop) (run : SinkRun σ N F E α)
    (run' : SinkRun σ' N F E α') : Prop :=
  ∀ s s', R s s' → AnswersAlike S (run.outcome s).1 (run'.outcome s').1 ∧
    R (run.outcome s).2 (run'.outcome s').2

namespace RunsAlike

variable {R : σ → σ' → Prop} {S : α → α' → Prop} {T : β → β' → Prop}

theorem pure {a : α} {a' : α'} (h : S a a') :
    RunsAlike R S (Pure.pure a : SinkRun σ N F E α) (Pure.pure a' : SinkRun σ' N F E α') :=
  fun _ _ hs => ⟨h, hs⟩

theorem bind {run : SinkRun σ N F E α} {run' : SinkRun σ' N F E α'}
    {next : α → SinkRun σ N F E β} {next' : α' → SinkRun σ' N F E β'} (h : RunsAlike R S run run')
    (hn : ∀ a a', S a a' → RunsAlike R T (next a) (next' a')) :
    RunsAlike R T (run >>= next) (run' >>= next') := by
  intro s s' hs
  rw [SinkRun.outcome_bind, SinkRun.outcome_bind]
  obtain ⟨hanswers, hafter⟩ := h s s' hs
  cases hr : run.outcome s with
  | mk result s₁ =>
    cases hr' : run'.outcome s' with
    | mk result' s₁' =>
      rw [hr, hr'] at hanswers hafter
      cases result with
      | ok a =>
        cases result' with
        | ok a' => exact hn a a' hanswers s₁ s₁' hafter
        | error e' => exact hanswers.elim
      | error e =>
        cases result' with
        | ok a' => exact hanswers.elim
        | error e' => exact ⟨hanswers, hafter⟩

/-- Loops go alike over items with the same keys, if the rounds of items with one key do. -/
theorem forM (key : γ → δ) {items items' : List γ} (hkeys : items.map key = items'.map key)
    {body : γ → SinkRun σ N F E PUnit} {body' : γ → SinkRun σ' N F E PUnit}
    (h : ∀ c c', key c = key c' → RunsAlike R Eq (body c) (body' c')) :
    RunsAlike R Eq (items.forM body) (items'.forM body') := by
  induction items generalizing items' with
  | nil =>
    obtain rfl := List.map_eq_nil_iff.mp hkeys.symm
    exact pure rfl
  | cons c items ih =>
    obtain ⟨c', items', rfl, hc, hrest⟩ := List.map_eq_cons_iff.mp hkeys.symm
    exact (h c c' hc.symm).bind fun _ _ _ => ih hrest.symm

theorem foldlM {items : List γ} {body : α → γ → SinkRun σ N F E α}
    {body' : α' → γ → SinkRun σ' N F E α'}
    (h : ∀ a a' c, S a a' → RunsAlike R S (body a c) (body' a' c)) {a : α} {a' : α'} (ha : S a a') :
    RunsAlike R S (items.foldlM body a) (items.foldlM body' a') := by
  induction items generalizing a a' with
  | nil => exact pure ha
  | cons c items ih => exact (h a a' c ha).bind fun _ _ => ih

end RunsAlike

/-! ### Sinks that differ in layout -/

/-- Whether a request is about where nodes stand. -/
def Request.isLayout : Request N F → Bool
  | .nodeLayout _ | .setPosition _ _ => true
  | _ => false

/-- Two sinks answer alike, but for where nodes stand and how wide they are; related states differ
in nothing else either. -/
structure DiffersInLayout (sink : GraphSink σ N F E) (sink' : GraphSink σ' N F E)
    (R : σ → σ' → Prop) : Prop where
  /-- Both know where the same nodes stand, but may say different things. -/
  layout : ∀ node, RunsAlike R (fun _ _ => True) (sink.call (.nodeLayout node))
    (sink'.call (.nodeLayout node))
  /-- Nodes may be put in different places. -/
  position : ∀ node position position', RunsAlike R Eq (sink.call (.setPosition node position))
    (sink'.call (.setPosition node position'))
  /-- All else is answered alike. -/
  other : ∀ request : Request N F, request.isLayout = false →
    RunsAlike R Eq (sink.call request) (sink'.call request)
  /-- So is a refresh. -/
  refresh : ∀ s s', R s s' → R (sink.refresh s) (sink'.refresh s')

/-- An emitted node, wherever it was placed. -/
def EmittedNode.unplaced (node : EmittedNode N) : EmittedNode N :=
  { node with position := originPosition }

/-- An output, wherever its nodes were placed. -/
def CompileOutput.unplaced (out : CompileOutput N F) : CompileOutput N F :=
  { out with nodes := out.nodes.map EmittedNode.unplaced }

/-- Emitted nodes that are the same but for their places. -/
def PlacedApart (emitted emitted' : List (EmittedNode N)) : Prop :=
  emitted.map EmittedNode.unplaced = emitted'.map EmittedNode.unplaced

namespace PlacedApart

variable {emitted emitted' : List (EmittedNode N)} {node node' : EmittedNode N}

theorem length (h : PlacedApart emitted emitted') : emitted.length = emitted'.length := by
  simpa using congrArg List.length h

theorem handles (h : PlacedApart emitted emitted') :
    emitted.map (·.handle) = emitted'.map (·.handle) := by
  have hhandles := congrArg (List.map EmittedNode.handle) h
  rwa [List.map_map, List.map_map] at hhandles

theorem concat (h : PlacedApart emitted emitted') (hn : node.unplaced = node'.unplaced) :
    PlacedApart (emitted ++ [node]) (emitted' ++ [node']) := by
  rw [PlacedApart, List.map_append, List.map_append, h, List.map_singleton, List.map_singleton, hn]

/-- The last node stands in another place, and so do those before. -/
theorem cases_last (h : PlacedApart emitted emitted') :
    emitted = [] ∧ emitted' = [] ∨ ∃ front front' last position, emitted = front ++ [last] ∧
      emitted' = front' ++ [{ last with position := position }] ∧ PlacedApart front front' := by
  rcases List.eq_nil_or_concat emitted with rfl | ⟨front, last, rfl⟩
  · exact .inl ⟨rfl, List.map_eq_nil_iff.mp h.symm⟩
  · rw [List.concat_eq_append] at h ⊢
    rw [PlacedApart, List.map_append, List.map_singleton, eq_comm, List.map_eq_append_iff] at h
    obtain ⟨front', rest, rfl, hfront, hrest⟩ := h
    obtain ⟨last', rfl, hlast⟩ := List.map_eq_singleton_iff.mp hrest
    have heq : last' = { last with position := last'.position } :=
      congrArg (fun node : EmittedNode N => { node with position := last'.position }) hlast
    exact .inr ⟨front, front', last, last'.position, rfl, by rw [← heq], hfront.symm⟩

end PlacedApart

namespace DiffersInLayout

variable {sink : GraphSink σ N F E} {sink' : GraphSink σ' N F E} {R : σ → σ' → Prop}
  (d : DiffersInLayout sink sink' R)

include d

/-- A node is placed somewhere, and linked to the same node. -/
theorem place {emitted emitted' : List (EmittedNode N)} (h : PlacedApart emitted emitted')
    (node : N) : RunsAlike R (fun _ _ => True) (sink.place emitted.getLast? node)
      (sink'.place emitted'.getLast? node) := by
  have hplaced (position position' : Planar) : RunsAlike R (fun _ _ => True)
      (sink.call (.setPosition node position) >>= fun _ => Pure.pure position)
      (sink'.call (.setPosition node position') >>= fun _ => Pure.pure position') :=
    (d.position node position position').bind fun _ _ _ => .pure trivial
  unfold GraphSink.place
  rcases h.cases_last with ⟨rfl, rfl⟩ | ⟨front, front', last, position, rfl, rfl, -⟩
  · exact RunsAlike.bind (S := fun _ _ => True) (.pure trivial) fun p p' _ => hplaced p p'
  · rw [List.getLast?_concat, List.getLast?_concat]
    refine (d.layout last.handle).bind fun layout layout' _ => ?_
    refine (d.other (.connect last.handle .geometry node .geometry) rfl).bind fun _ _ _ => ?_
    exact RunsAlike.bind (S := fun _ _ => True) (.pure trivial) fun p p' _ => hplaced p p'

theorem emitStep {emitted emitted' : List (EmittedNode N)} (h : PlacedApart emitted emitted')
    (step : Step) :
    RunsAlike R PlacedApart (sink.emitStep emitted step) (sink'.emitStep emitted' step) := by
  unfold GraphSink.emitStep
  refine (d.other (.createNode step.operation.nodeKind) rfl).bind fun node _ hnode => ?_
  obtain rfl := hnode
  refine (d.place h node).bind fun position position' _ => ?_
  refine (d.other (.setOperation node step.operation) rfl).bind fun _ _ _ => ?_
  refine RunsAlike.bind (RunsAlike.forM id rfl fun b _ hb => ?_) fun _ _ _ => ?_
  · obtain rfl := hb
    exact (d.other (.setInputKind node b.slot b.kind) rfl).bind fun _ _ _ =>
      d.other (.setInputValue node b.socket b.value) rfl
  · refine (d.other (.setInputValue node .result (.text step.resultName)) rfl).bind fun _ _ _ => ?_
    rw [h.length]
    exact .pure (h.concat rfl)

theorem nameNodes (plan : Plan) {emitted emitted' : List (EmittedNode N)}
    (h : PlacedApart emitted emitted') :
    RunsAlike R PlacedApart (sink.nameNodes plan emitted) (sink'.nameNodes plan emitted') := by
  unfold GraphSink.nameNodes
  cases plan.finalName with
  | none => exact .pure h
  | some name =>
    unfold GraphSink.renameLast
    rcases h.cases_last with ⟨rfl, rfl⟩ | ⟨front, front', last, position, rfl, rfl, hfront⟩
    · exact .pure rfl
    · rw [List.getLast?_concat, List.getLast?_concat, List.dropLast_concat, List.dropLast_concat]
      exact (d.other (.setInputValue last.handle .result (.text name)) rfl).bind fun _ _ _ =>
        .pure (hfront.concat rfl)

theorem frameIf (addFrame : Bool) {emitted emitted' : List (EmittedNode N)}
    (h : PlacedApart emitted emitted') (label : String) :
    RunsAlike R Eq (sink.frameIf addFrame emitted label)
      (sink'.frameIf addFrame emitted' label) := by
  unfold GraphSink.frameIf GraphSink.frameNodes
  cases addFrame with
  | false => exact .pure rfl
  | true =>
    have hempty := congrArg List.isEmpty h
    rw [List.isEmpty_map, List.isEmpty_map] at hempty
    rw [if_pos rfl, if_pos rfl, hempty]
    cases emitted'.isEmpty with
    | true => exact .pure rfl
    | false =>
      refine (d.other (.createFrame label) rfl).bind fun (frame : F) _ hframe => ?_
      obtain rfl := hframe
      refine RunsAlike.bind (.forM _ h.handles fun node node' hhandle => ?_) fun _ _ _ => .pure rfl
      have hassign := d.other (.assignToFrame node.handle frame) rfl
      exact hhandle ▸ hassign

/-- **Builds differ in places only.** -/
theorem build (plan : Plan) (label : String) (addFrame : Bool) :
    RunsAlike R (fun out out' => out.unplaced = out'.unplaced) (sink.build plan label addFrame)
      (sink'.build plan label addFrame) := by
  rw [GraphSink.build_eq, GraphSink.build_eq]
  refine (d.other .ensureReady rfl).bind fun _ _ _ => ?_
  by_cases hc : plan.status = .cancelled
  · rw [if_pos hc, if_pos hc]
    exact .pure rfl
  · rw [if_neg hc, if_neg hc]
    refine RunsAlike.bind (.foldlM (fun _ _ step h => d.emitStep h step) rfl) ?_
    intro emitted emitted' hemitted
    refine (d.nameNodes plan hemitted).bind fun named named' hnamed => ?_
    refine (d.frameIf addFrame hnamed label).bind fun frame _ hframe => ?_
    obtain rfl := hframe
    refine RunsAlike.bind (S := Eq) ?_ fun _ _ _ => .pure ?_
    · exact fun s s' hs => ⟨rfl, d.refresh s s' hs⟩
    · rw [CompileOutput.unplaced, CompileOutput.unplaced]
      exact congrArg (fun nodes => (⟨plan.status, nodes, plan.diagnostics, frame⟩ :
        CompileOutput N F)) hnamed

/-- **Compilations differ in places only**: they fail alike, or give outputs that are the same
wherever the nodes were placed. -/
theorem compile (catalog : Catalog) (settings : Settings) {s : σ} {s' : σ'} (hs : R s s') :
    AnswersAlike (fun out out' => out.unplaced = out'.unplaced)
        (sink.compile catalog settings s).1 (sink'.compile catalog settings s').1 ∧
      R (sink.compile catalog settings s).2 (sink'.compile catalog settings s').2 := by
  by_cases hv : settings.isValid = true
  · obtain ⟨hanswers, hafter⟩ := d.build
      (Plan.ofFormula catalog settings.tempName settings.formula) settings.formula
      settings.addFrame s s' hs
    rw [GraphSink.compile_of_isValid hv, GraphSink.compile_of_isValid hv]
    refine ⟨?_, hafter⟩
    revert hanswers
    generalize (SinkRun.outcome (sink.build _ _ _) s).1 = result
    generalize (SinkRun.outcome (sink'.build _ _ _) s').1 = result'
    cases result with
    | ok out => cases result' <;> exact id
    | error e =>
      cases result' with
      | ok out => exact id
      | error e' => exact congrArg CompileError.sink
  · rw [GraphSink.compile, GraphSink.compile, if_neg hv, if_neg hv]
    exact ⟨rfl, hs⟩

end DiffersInLayout

/-! ### Recordings -/

/-- A recorded node, wherever it stands and however wide it is. -/
def RecordedNode.unplaced (node : RecordedNode) : RecordedNode :=
  { node with position := originPosition, width := defaultNodeWidth }

namespace Recording

/-- Recordings that are the same but for where nodes stand and how wide they are. -/
structure PlacedApart (r r' : Recording) : Prop where
  /-- The nodes are the same otherwise. -/
  nodes : r.nodes.map RecordedNode.unplaced = r'.nodes.map RecordedNode.unplaced
  /-- The links are the same. -/
  links : r.links = r'.links
  /-- The frames are the same. -/
  frames : r.frames = r'.frames
  /-- So is the number of refreshes. -/
  refreshes : r.refreshes = r'.refreshes

/-- Changing a node in each of two lists. -/
theorem map_unplaced_modify {nodes nodes' : List RecordedNode}
    (h : nodes.map RecordedNode.unplaced = nodes'.map RecordedNode.unplaced) (i : Nat)
    {f f' : RecordedNode → RecordedNode}
    (hf : ∀ n n' : RecordedNode, n.unplaced = n'.unplaced → (f n).unplaced = (f' n').unplaced) :
    (nodes.modify i f).map RecordedNode.unplaced =
      (nodes'.modify i f').map RecordedNode.unplaced := by
  induction nodes generalizing nodes' i with
  | nil =>
    obtain rfl := List.map_eq_nil_iff.mp h.symm
    simp
  | cons n nodes ih =>
    obtain ⟨n', nodes', rfl, hn, hrest⟩ := List.map_eq_cons_iff.mp h.symm
    cases i with
    | zero => simp [hf n n' hn.symm, hrest]
    | succ i => simp [hn, ih hrest.symm i]

namespace PlacedApart

variable {r r' : Recording}

theorem refl (r : Recording) : PlacedApart r r := ⟨rfl, rfl, rfl, rfl⟩

theorem length (h : PlacedApart r r') : r.nodes.length = r'.nodes.length := by
  simpa using congrArg List.length h.nodes

/-- Nodes are found in both at the same numbers. -/
theorem node (h : PlacedApart r r') (i : Nat) :
    r.nodes[i]?.map RecordedNode.unplaced = r'.nodes[i]?.map RecordedNode.unplaced := by
  rw [← List.getElem?_map, ← List.getElem?_map, h.nodes]

/-- A change that does not look at places. -/
theorem change (h : PlacedApart r r') (node : Nat) {f f' : RecordedNode → RecordedNode}
    (hf : ∀ n n' : RecordedNode, n.unplaced = n'.unplaced → (f n).unplaced = (f' n').unplaced) :
    AnswersAlike Eq (change node f r).1 (change node f' r').1 ∧
      PlacedApart (change node f r).2 (change node f' r').2 := by
  by_cases hlt : node < r.nodes.length
  · rw [change_of_lt hlt, change_of_lt (h.length ▸ hlt)]
    exact ⟨rfl, { h with nodes := map_unplaced_modify h.nodes node hf }⟩
  · rw [change_of_not_lt hlt, change_of_not_lt (h.length ▸ hlt)]
    exact ⟨rfl, h⟩

theorem createNode (h : PlacedApart r r') (kind : NodeKind) (width width' : Single) :
    PlacedApart { r with nodes := r.nodes ++ [.fresh kind width] }
      { r' with nodes := r'.nodes ++ [.fresh kind width'] } := by
  refine { h with nodes := ?_ }
  rw [List.map_append, List.map_append, h.nodes]
  rfl

theorem layout (h : PlacedApart r r') (node : Nat) (shown : NodeLayout → NodeLayout) :
    AnswersAlike (fun _ _ => True) (r.layout node) ((r'.layout node).map shown) := by
  have hnode := h.node node
  unfold Recording.layout
  cases hn : r.nodes[node]? with
  | none =>
    rw [hn, Option.map_none, eq_comm, Option.map_eq_none_iff] at hnode
    rw [hnode]
    rfl
  | some n =>
    rw [hn, Option.map_some, eq_comm, Option.map_eq_some_iff] at hnode
    obtain ⟨n', hn', -⟩ := hnode
    rw [hn']
    trivial

theorem link (h : PlacedApart r r') (source : Nat) (output : OutputSocket) (target : Nat)
    (input : Socket) :
    AnswersAlike Eq (link source output target input r).1 (link source output target input r').1 ∧
      PlacedApart (link source output target input r).2
        (link source output target input r').2 := by
  unfold Recording.link
  rw [← h.length]
  split
  · exact ⟨rfl, h⟩
  split
  · exact ⟨rfl, h⟩
  · exact ⟨rfl, { h with links := congrArg (· ++ _) h.links }⟩

theorem assign (h : PlacedApart r r') (node frame : Nat) :
    AnswersAlike Eq (assign node frame r).1 (assign node frame r').1 ∧
      PlacedApart (assign node frame r).2 (assign node frame r').2 := by
  unfold Recording.assign
  rw [← h.frames]
  split
  · exact ⟨rfl, h⟩
  · exact h.change node fun n n' hn =>
      congrArg (fun n : RecordedNode => { n with frame := some frame }) hn

end PlacedApart

/-- Recording sinks differ in no more than layout, whatever widths their nodes have and whatever
they are displaced by. -/
theorem differsInLayout (widths : List Single) (offset : Planar) :
    DiffersInLayout sink (sinkWithLayout widths offset) PlacedApart where
  layout node := fun _ _ h => ⟨h.layout node _, h⟩
  position node position position' := fun _ _ h => h.change node fun _ _ hn => hn
  other request hrequest := by
    intro r r' h
    cases request with
    | ensureReady => exact ⟨rfl, h⟩
    | createNode kind =>
      exact ⟨h.length, h.createNode kind _ _⟩
    | nodeLayout node => cases hrequest
    | setPosition node position => cases hrequest
    | setOperation node operation =>
      exact h.change node fun _ _ hn =>
        congrArg (fun n : RecordedNode => { n with operation := some operation }) hn
    | setInputKind node slot kind =>
      exact h.change node fun _ _ hn =>
        congrArg (fun n : RecordedNode => { n with inputKinds := n.inputKinds.set slot kind }) hn
    | setInputValue node socket value =>
      exact h.change node fun _ _ hn =>
        congrArg (fun n : RecordedNode => { n with values := n.values ++ [(socket, value)] }) hn
    | connect source output target input => exact h.link source output target input
    | createFrame label =>
      exact ⟨congrArg List.length h.frames, { h with frames := congrArg (· ++ [label]) h.frames }⟩
    | assignToFrame node frame => exact h.assign node frame
  refresh _ _ h := { h with refreshes := congrArg (· + 1) h.refreshes }

/-- **What widths and an offset do to a recording.** A compilation into a recording sink whose nodes
have any widths and are shown displaced gives the output, and records the nodes, links and frames,
of a compilation into a plain recording sink; only places and widths differ. -/
theorem compile_sinkWithLayout (widths : List Single) (offset : Planar) (catalog : Catalog)
    (settings : Settings) (r : Recording) :
    AnswersAlike (fun out out' => out.unplaced = out'.unplaced)
        (sink.compile catalog settings r).1
        ((sinkWithLayout widths offset).compile catalog settings r).1 ∧
      PlacedApart (sink.compile catalog settings r).2
        ((sinkWithLayout widths offset).compile catalog settings r).2 :=
  (differsInLayout widths offset).compile catalog settings (.refl r)

end Recording

end FormulaChain
