import FormulaChain.Proofs.Sink.Build

/-!
# Builds on two sinks

A build uses the handles that a sink gives it and looks at nothing else in them. So whatever way
there is to say that a run on one sink mirrors a run on another, with handles renamed, it is enough
to say it of single calls and to show that it goes along sequences (`Mirrors`): then the builds of
every plan on the two sinks mirror each other (`Mirrors.build`).
-/

namespace FormulaChain

variable {σ N F E σ' N' F' E' : Type}

/-! ### Renamed handles -/

section Rename

variable (node : N → N') (frame : F → F')

/-- A request under other handles. -/
def Request.rename : Request N F → Request N' F'
  | .ensureReady => .ensureReady
  | .createNode kind => .createNode kind
  | .nodeLayout n => .nodeLayout (node n)
  | .setPosition n position => .setPosition (node n) position
  | .setOperation n operation => .setOperation (node n) operation
  | .setInputKind n slot kind => .setInputKind (node n) slot kind
  | .setInputValue n socket value => .setInputValue (node n) socket value
  | .connect source output target input => .connect (node source) output (node target) input
  | .createFrame label => .createFrame label
  | .assignToFrame n f => .assignToFrame (node n) (frame f)

/-- The answer to a request under other handles. -/
def Request.renameAnswer :
    (request : Request N F) → request.Answer → (request.rename node frame).Answer
  | .createNode _ => node
  | .createFrame _ => frame
  | .ensureReady => id
  | .nodeLayout _ => id
  | .setPosition _ _ => id
  | .setOperation _ _ => id
  | .setInputKind _ _ _ => id
  | .setInputValue _ _ _ => id
  | .connect _ _ _ _ => id
  | .assignToFrame _ _ => id

/-- An emitted node under another handle. -/
def EmittedNode.rename (n : EmittedNode N) : EmittedNode N' where
  handle := node n.handle
  operation := n.operation
  args := n.args
  bindings := n.bindings
  resultName := n.resultName
  sequenceIndex := n.sequenceIndex
  position := n.position

/-- An output under other handles. -/
def CompileOutput.rename (out : CompileOutput N F) : CompileOutput N' F' :=
  ⟨out.status, out.nodes.map (·.rename node), out.diagnostics, out.frame.map frame⟩

end Rename

/-- An output under the same handles is the same. -/
theorem CompileOutput.rename_id :
    (CompileOutput.rename id id : CompileOutput N F → CompileOutput N F) = id := by
  funext out
  have hnodes : out.nodes.map (EmittedNode.rename id) = out.nodes := List.map_id out.nodes
  rw [rename, hnodes, Option.map_id]
  rfl

/-! ### Runs that mirror runs -/

/-- A relation between the runs on two sinks, where the answer of the second is a function of that
of the first: it holds of single calls under renamed handles and goes along sequences. -/
structure Mirrors (sink : GraphSink σ N F E) (sink' : GraphSink σ' N' F' E') (node : N → N')
    (frame : F → F')
    (Holds : ∀ {α β : Type}, (α → β) → SinkRun σ N F E α → SinkRun σ' N' F' E' β → Prop) :
    Prop where
  /-- An answer is mirrored without any call. -/
  pure : ∀ {α β : Type} (f : α → β) (a : α), Holds f (pure a) (pure (f a))
  /-- Sequences are mirrored part by part. -/
  bind : ∀ {α α' β β' : Type} {f : α → α'} {g : β → β'} {run : SinkRun σ N F E α}
    {run' : SinkRun σ' N' F' E' α'} {next : α → SinkRun σ N F E β}
    {next' : α' → SinkRun σ' N' F' E' β'}, Holds f run run' →
    (∀ a, Holds g (next a) (next' (f a))) → Holds g (run >>= next) (run' >>= next')
  /-- Requests are mirrored. -/
  call : ∀ request : Request N F, Holds (request.renameAnswer node frame) (sink.call request)
    (sink'.call (request.rename node frame))
  /-- A refresh is mirrored. -/
  refresh : Holds id sink.callRefresh sink'.callRefresh

namespace Mirrors

variable {sink : GraphSink σ N F E} {sink' : GraphSink σ' N' F' E'} {node : N → N'}
  {frame : F → F'}
  {Holds : ∀ {α β : Type}, (α → β) → SinkRun σ N F E α → SinkRun σ' N' F' E' β → Prop}
  (m : Mirrors sink sink' node frame Holds)

include m

theorem forM {α β : Type} (f : α → β) {items : List α} {body : α → SinkRun σ N F E PUnit}
    {body' : β → SinkRun σ' N' F' E' PUnit} (h : ∀ a, Holds id (body a) (body' (f a))) :
    Holds id (items.forM body) ((items.map f).forM body') := by
  induction items with
  | nil => exact m.pure id _
  | cons a items ih => exact m.bind (h a) fun _ => ih

theorem foldlM {α β γ : Type} (f : β → γ) {items : List α} {body : β → α → SinkRun σ N F E β}
    {body' : γ → α → SinkRun σ' N' F' E' γ} (h : ∀ b a, Holds f (body b a) (body' (f b) a))
    (b : β) : Holds f (items.foldlM body b) (items.foldlM body' (f b)) := by
  induction items generalizing b with
  | nil => exact m.pure f b
  | cons a items ih => exact m.bind (h b a) ih

theorem place (previous : Option (EmittedNode N)) (n : N) :
    Holds id (sink.place previous n) (sink'.place (previous.map (·.rename node)) (node n)) := by
  unfold GraphSink.place
  have hplaced (position : Planar) : Holds id
      (sink.call (.setPosition n position) >>= fun _ => (Pure.pure position : SinkRun σ N F E _))
      (sink'.call (.setPosition (node n) position) >>= fun _ => Pure.pure position) :=
    m.bind (m.call (.setPosition n position)) fun _ => m.pure id position
  cases previous with
  | none => exact m.bind (m.pure id originPosition) hplaced
  | some before =>
    refine m.bind (m.call (.nodeLayout before.handle)) fun layout => ?_
    refine m.bind (m.call (.connect before.handle .geometry n .geometry)) fun _ => ?_
    exact m.bind (m.pure id _) hplaced

theorem emitStep (emitted : List (EmittedNode N)) (step : Step) :
    Holds (List.map (EmittedNode.rename node)) (sink.emitStep emitted step)
      (sink'.emitStep (emitted.map (EmittedNode.rename node)) step) := by
  unfold GraphSink.emitStep
  rw [List.getLast?_map, List.length_map]
  refine m.bind (m.call (.createNode step.operation.nodeKind)) fun (n : N) => ?_
  refine m.bind (m.place _ n) fun position => ?_
  refine m.bind (m.call (.setOperation n step.operation)) fun _ => ?_
  have hbindings : Holds id ((step.operation.bind step.args).forM (sink.writeBinding n))
      (((step.operation.bind step.args).map id).forM (sink'.writeBinding (node n))) :=
    m.forM id fun b => m.bind (m.call (.setInputKind n b.slot b.kind)) fun _ =>
      m.call (.setInputValue n b.socket b.value)
  rw [List.map_id] at hbindings
  refine m.bind hbindings fun _ => ?_
  refine m.bind (m.call (.setInputValue n .result (.text step.resultName))) fun _ => ?_
  have hdone := m.pure (List.map (EmittedNode.rename node)) (emitted ++ [{
    handle := n
    operation := step.operation
    args := step.args
    bindings := step.operation.bind step.args
    resultName := step.resultName
    sequenceIndex := emitted.length
    position := position }])
  rw [List.map_append] at hdone
  exact hdone

theorem nameNodes (plan : Plan) (emitted : List (EmittedNode N)) :
    Holds (List.map (EmittedNode.rename node)) (sink.nameNodes plan emitted)
      (sink'.nameNodes plan (emitted.map (EmittedNode.rename node))) := by
  unfold GraphSink.nameNodes
  cases plan.finalName with
  | none => exact m.pure _ emitted
  | some name =>
    unfold GraphSink.renameLast
    rcases List.eq_nil_or_concat emitted with rfl | ⟨front, last, rfl⟩
    · exact m.pure _ []
    · simp only [List.concat_eq_append, List.map_append, List.map_singleton,
        List.getLast?_concat, List.dropLast_concat]
      refine m.bind (m.call (.setInputValue last.handle .result (.text name))) fun _ => ?_
      have hdone := m.pure (List.map (EmittedNode.rename node))
        (front ++ [{ last with resultName := name }])
      rw [List.map_append] at hdone
      exact hdone

theorem frameIf (addFrame : Bool) (emitted : List (EmittedNode N)) (label : String) :
    Holds (Option.map frame) (sink.frameIf addFrame emitted label)
      (sink'.frameIf addFrame (emitted.map (EmittedNode.rename node)) label) := by
  unfold GraphSink.frameIf GraphSink.frameNodes
  cases addFrame with
  | false => exact m.pure (Option.map frame) none
  | true =>
    rw [if_pos rfl, if_pos rfl, List.isEmpty_map]
    cases emitted.isEmpty with
    | true => exact m.pure (Option.map frame) none
    | false =>
      refine m.bind (m.call (.createFrame label)) fun (f : F) => ?_
      refine m.bind (m.forM (EmittedNode.rename node) fun n => ?_) fun _ => ?_
      · exact m.call (.assignToFrame n.handle f)
      · exact m.pure (Option.map frame) (some f)

/-- **The builds of a plan on two sinks mirror each other.** -/
theorem build (plan : Plan) (label : String) (addFrame : Bool) :
    Holds (CompileOutput.rename node frame) (sink.build plan label addFrame)
      (sink'.build plan label addFrame) := by
  rw [GraphSink.build_eq, GraphSink.build_eq]
  refine m.bind (m.call .ensureReady) fun _ => ?_
  by_cases hc : plan.status = .cancelled
  · rw [if_pos hc, if_pos hc]
    exact m.pure (CompileOutput.rename node frame) ⟨.cancelled, [], plan.diagnostics, none⟩
  · rw [if_neg hc, if_neg hc]
    refine m.bind (m.foldlM (List.map (EmittedNode.rename node)) m.emitStep []) fun emitted => ?_
    refine m.bind (m.nameNodes plan emitted) fun named => ?_
    refine m.bind (m.frameIf addFrame named label) fun framed => ?_
    refine m.bind m.refresh fun _ => ?_
    exact m.pure (CompileOutput.rename node frame) ⟨plan.status, named, plan.diagnostics, framed⟩

end Mirrors

end FormulaChain
