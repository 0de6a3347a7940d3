import FormulaChain.Catalog.Builtin
import FormulaChain.Proofs.Graph.Emission

/-!
# Compiling into a graph

A compilation into a geometry graph never fails, whatever the graph holds (`compile_adds`). It adds
one node for each operator, which carries it out (`Carries`), links each to the one before, puts
them into a frame if one is wanted, and counts one refresh; all else stays as it was. Graphs of
other kinds refuse every compilation and do not change.
-/

namespace FormulaChain.Graph

open SinkRun

variable {g₀ : Graph}

/-! ### Frames -/

/-- The place of the frame of a node, if the nodes done lie in the only new frame and the others in
none. -/
def frameAmong (done : List NodeId) (node : EmittedNode NodeId) : Option Nat :=
  if node.handle ∈ done then some 0 else none

/-- A node is put into the only new frame. -/
theorem EmittedAs.assign {frame : FrameId} {done : List NodeId} {node : EmittedNode NodeId}
    {entry : NodeId × Node} (h : EmittedAs [frame] (frameAmong done node) node entry)
    (id : NodeId) :
    EmittedAs [frame] (frameAmong (done ++ [id]) node) node
      (Table.modifyEntry id (fun n => { n with parent := some frame }) entry) := by
  obtain ⟨names, hnames, hagrees⟩ := h.agrees
  by_cases hid : entry.1 = id
  · have hplace : frameAmong (done ++ [id]) node = some 0 := by
      simp [frameAmong, ← h.handle, hid]
    rw [hplace, Table.modifyEntry, if_pos hid]
    exact ⟨h.handle, h.bindings, names, hnames,
      hagrees.setFrame (List.nodup_singleton frame) rfl⟩
  · have hplace : frameAmong (done ++ [id]) node = frameAmong done node := by
      simp [frameAmong, ← h.handle, hid]
    rwa [hplace, Table.modifyEntry, if_neg hid]

/-- Emitted nodes are known by their handles. -/
theorem handles_of_forall₂ {R : EmittedNode NodeId → NodeId × Node → Prop}
    {emitted : List (EmittedNode NodeId)} {news : List (NodeId × Node)}
    (h : List.Forall₂ R emitted news) (hR : ∀ node entry, R node entry → entry.1 = node.handle) :
    news.map (·.1) = emitted.map (·.handle) := by
  rw [← List.forall₂_eq_eq_eq, List.forall₂_map_left_iff, List.forall₂_map_right_iff]
  exact (h.imp hR).flip

/-- The emitted nodes lie in one new frame, or there is none. -/
structure Framed (g₀ : Graph) (label : String) (emitted : List (EmittedNode NodeId))
    (frame : Option FrameId) (g : Graph) : Prop where
  /-- The nodes and the frame were made. -/
  emitted : Emitted g₀ (frame.map fun id => (id, ⟨id, label⟩)).toList
    (fun _ => frame.map fun _ => 0) emitted g
  /-- No node from before lies in the frame. -/
  outside : ∀ id ∈ frame, ∀ n ∈ g₀.nodes.values, n.parent ≠ some id

theorem Unframed.framed {g : Graph} {emitted : List (EmittedNode NodeId)}
    (h : Unframed g₀ emitted g) (label : String) : Framed g₀ label emitted none g :=
  ⟨h, fun _ hid => absurd hid (Option.not_mem_none _)⟩

/-- When all nodes are done, all lie in the frame. -/
theorem Emitted.framed {g : Graph} {emitted : List (EmittedNode NodeId)} {frame : FrameId}
    {label : String} (houtside : ∀ n ∈ g₀.nodes.values, n.parent ≠ some frame)
    (h : Emitted g₀ [(frame, ⟨frame, label⟩)] (frameAmong (emitted.map (·.handle))) emitted g) :
    Framed g₀ label emitted (some frame) g := by
  obtain ⟨news, links, hg, hnews, hlinks⟩ := h
  refine ⟨⟨news, links, hg, ?_, hlinks⟩, fun id hid => Option.some.inj hid ▸ houtside⟩
  have hall := (List.forall₂_and_left emitted news).mpr ⟨fun _ hnode => hnode, hnews⟩
  refine hall.imp fun node entry hentry => ?_
  obtain ⟨hnode, hentry⟩ := hentry
  rwa [frameAmong, if_pos (List.mem_map_of_mem hnode)] at hentry

section Framing

variable [IdentitySupply]

/-- One more node is put into the only new frame. -/
theorem runs_assignToFrame {emitted : List (EmittedNode NodeId)} {frame : FrameId} {f : Frame}
    (done : List NodeId) {node : EmittedNode NodeId} (hnode : node ∈ emitted) :
    Runs (Emitted g₀ [(frame, f)] (frameAmong done) emitted)
      (sink.call (.assignToFrame node.handle frame)) fun _ =>
        Emitted g₀ [(frame, f)] (frameAmong (done ++ [node.handle])) emitted := by
  rintro g ⟨news, links, hg, hnews, hlinks⟩
  have hhandle : node.handle ∈ news.map (·.1) := by
    rw [handles_of_forall₂ hnews fun _ _ h => h.handle]
    exact List.mem_map_of_mem hnode
  obtain ⟨⟨id, n⟩, hentry, hid⟩ := List.mem_map.mp hhandle
  obtain rfl : id = node.handle := hid
  have hframe : frame ∈ g.frames.keys := by
    simp [Table.keys, hg.frames]
  have hmem : node.handle ∈ g.nodes.keys :=
    Table.mem_keys_of_mem (Table.get?_eq_some_iff.mp (hg.node? hentry))
  have hanswer : answer (.assignToFrame node.handle frame) g =
      (.ok (), g.modifyNode node.handle fun n => { n with parent := some frame }) := by
    simp only [answer, setParent_eq_ok.mpr ⟨hframe, hmem, rfl⟩]
  refine ⟨(), _, hanswer, _, links, hg.modifyNode hentry _, ?_, ?_⟩
  · rw [List.forall₂_map_right_iff]
    exact hnews.imp fun _ _ h => h.assign node.handle
  · rw [hlinks, chained_map]
    intro entry
    unfold Table.modifyEntry
    split <;> exact ⟨rfl, rfl⟩

/-- A new frame holds none of the nodes that are there. -/
theorem runs_createFrame (emitted : List (EmittedNode NodeId)) (label : String) :
    Runs (Unframed g₀ emitted) (sink.call (.createFrame label)) fun (frame : FrameId) g =>
      Emitted g₀ [(frame, ⟨frame, label⟩)] (frameAmong []) emitted g ∧
        ∀ n ∈ g₀.nodes.values, n.parent ≠ some frame := by
  rintro g ⟨news, links, hg, hnews, hlinks⟩
  refine ⟨⟨g.nextNumbers.first⟩, _, rfl,
    ⟨news, links, { hg with frames := ?_ }, hnews.imp fun node entry h => ?_, hlinks⟩,
    fun n hn => ?_⟩
  · rw [frames_addFrame_newFrame, hg.frames, List.append_nil]
  · obtain ⟨names, hnames, hagrees⟩ := h.agrees
    have hplace : frameAmong [] node = none := if_neg List.not_mem_nil
    rw [hplace]
    exact ⟨h.handle, h.bindings, names, hnames, hagrees.addFrame List.not_mem_nil⟩
  · refine parent_ne_next (g := g) ?_
    rw [Table.values, hg.nodes, List.map_append]
    exact List.mem_append_left _ hn

/-- There is a frame exactly if one is wanted and there is something to put into it. -/
theorem runs_frameIf (addFrame : Bool) (emitted : List (EmittedNode NodeId)) (label : String) :
    Runs (Unframed g₀ emitted) (sink.frameIf addFrame emitted label) fun frame g =>
      frame.isSome = (addFrame && !emitted.isEmpty) ∧ Framed g₀ label emitted frame g := by
  unfold GraphSink.frameIf GraphSink.frameNodes
  cases addFrame with
  | false => exact runs_pure fun g hg => ⟨rfl, hg.framed label⟩
  | true =>
    rw [if_pos rfl]
    cases he : emitted.isEmpty with
    | true => exact runs_pure fun g hg => ⟨rfl, hg.framed label⟩
    | false =>
      refine (runs_createFrame emitted label).bind fun (frame : FrameId) =>
        Runs.of_and fun houtside => ?_
      have hround : ∀ done, ∀ node ∈ emitted, Runs
          (Emitted g₀ [(frame, ⟨frame, label⟩)] (frameAmong (done.map (·.handle))) emitted)
          (sink.call (.assignToFrame node.handle frame)) fun _ =>
            Emitted g₀ [(frame, ⟨frame, label⟩)]
              (frameAmong ((done ++ [node]).map (·.handle))) emitted := by
        intro done node hnode
        rw [List.map_append]
        exact runs_assignToFrame (done.map (·.handle)) hnode
      exact (Runs.forM_done hround []).bind fun _ => runs_pure fun g hg => ⟨rfl, hg.framed houtside⟩

end Framing

/-! ### Builds -/

/-- What a build of a plan makes of a geometry graph. -/
structure Built (g₀ : Graph) (plan : Plan) (label : String) (addFrame : Bool)
    (out : CompileOutput NodeId FrameId) (g' : Graph) : Prop where
  /-- The build ends as planned. -/
  status : out.status = plan.status
  /-- A cancelled build leaves the graph alone. -/
  cancelled : plan.status = .cancelled → g' = g₀
  /-- Any other makes nodes and a frame and refreshes the graph. -/
  made : plan.status ≠ .cancelled → out.frame.isSome = (addFrame && !out.nodes.isEmpty) ∧
    ∃ g, Framed g₀ label out.nodes out.frame g ∧ g' = g.tagUpdate

section Building

variable [IdentitySupply]

theorem runs_buildNodes {plan : Plan} (hc : plan.status ≠ .cancelled) (label : String)
    (addFrame : Bool) :
    Runs (· = g₀) (sink.buildNodes plan label addFrame) (Built g₀ plan label addFrame) := by
  have hstart : Runs (· = g₀) (plan.steps.foldlM sink.emitStep []) (Unframed g₀) := by
    intro g heq
    rw [heq]
    exact Runs.foldlM (fun emitted step _ => runs_emitStep emitted step) [] g₀ (Unframed.refl g₀)
  unfold GraphSink.buildNodes
  refine hstart.bind fun emitted => (runs_nameNodes plan emitted).bind fun named => ?_
  refine (runs_frameIf addFrame named label).bind fun frame => ?_
  refine Runs.bind (Q := fun _ g' => frame.isSome = (addFrame && !named.isEmpty) ∧
    ∃ g, Framed g₀ label named frame g ∧ g' = g.tagUpdate) ?_ fun _ => ?_
  · exact fun g hg => ⟨(), _, rfl, hg.1, g, hg.2, rfl⟩
  · exact runs_pure fun g' hg' => ⟨rfl, fun h => absurd h hc, fun _ => hg'⟩

/-- **A geometry graph refuses no build.** -/
theorem runs_build (hk : g₀.kind = .geometry) (plan : Plan) (label : String) (addFrame : Bool) :
    Runs (· = g₀) (sink.build plan label addFrame) (Built g₀ plan label addFrame) := by
  rw [GraphSink.build_eq]
  refine Runs.bind (Q := fun _ => (· = g₀)) ?_ fun _ => ?_
  · rintro g rfl
    exact ⟨(), g, Prod.ext (if_pos hk) rfl, rfl⟩
  · by_cases hc : plan.status = .cancelled
    · rw [if_pos hc]
      exact runs_pure fun g hg => ⟨hc.symm, fun _ => hg, fun h => absurd hc h⟩
    · rw [if_neg hc]
      exact runs_buildNodes hc label addFrame

end Building

/-! ### Compilations -/

/-- What a finished compilation adds to a graph: some nodes, which carry out the operators of the
output, and some links between them. -/
structure Adds (g : Graph) (settings : Settings) (out : CompileOutput NodeId FrameId)
    (news : List (NodeId × Node)) (links : List (ConnectionId × Connection)) (g' : Graph) :
    Prop where
  /-- The name stays. -/
  name : g'.name = g.name
  /-- The kind stays. -/
  kind : g'.kind = g.kind
  /-- One refresh is counted. -/
  revision : g'.revision = g.revision + 1
  /-- The nodes from before stay as they were, and the new ones follow. -/
  nodes : g'.nodes.entries = g.nodes.entries ++ news
  /-- The new nodes are those of the output. -/
  handles : news.map (·.1) = out.nodes.map (·.handle)
  /-- Each carries out its operator, in the frame of the output. -/
  contents : List.Forall₂ (Carries out.frame) out.nodes news
  /-- The connections from before stay as they were, and the new ones follow. -/
  connections : g'.connections.entries = g.connections.entries ++ links
  /-- The new nodes are linked to a chain. -/
  chain : links.map (fun c => joined c.2) = List.zipWith geometryLink news news.tail
  /-- There is one link less than nodes. -/
  count : links.length = out.nodes.length - 1
  /-- If a frame is wanted, it is new, has the formula as its label, and holds the new nodes. -/
  framed : settings.addFrame = true → out.nodes ≠ [] → ∃ frame, out.frame = some frame ∧
    g'.frames.entries = g.frames.entries ++ [(frame, ⟨frame, settings.formula⟩)] ∧
    g'.nodesInFrame frame = news.map (·.2)
  /-- Otherwise there is no new frame. -/
  unframed : settings.addFrame = false ∨ out.nodes = [] →
    out.frame = none ∧ g'.frames = g.frames

/-- The new nodes are those in the new frame. -/
theorem nodesInFrame_of_parents {g : Graph} {frame : FrameId} {news : List (NodeId × Node)}
    (hnodes : g.nodes.entries = g₀.nodes.entries ++ news)
    (hold : ∀ n ∈ g₀.nodes.values, n.parent ≠ some frame)
    (hnew : ∀ entry ∈ news, entry.2.parent = some frame) :
    g.nodesInFrame frame = news.map (·.2) := by
  have hvalues : g.nodes.values = g₀.nodes.values ++ news.map (·.2) := by
    rw [Table.values, hnodes, List.map_append]
    rfl
  have hnone : g₀.nodes.values.filter (·.parent = some frame) = [] := by
    rw [List.filter_eq_nil_iff]
    intro n hn
    simpa using hold n hn
  have hall : (news.map (·.2)).filter (·.parent = some frame) = news.map (·.2) := by
    rw [List.filter_eq_self]
    intro n hn
    obtain ⟨entry, hentry, rfl⟩ := List.mem_map.mp hn
    exact decide_eq_true (hnew entry hentry)
  rw [nodesInFrame, hvalues, List.filter_append, hnone, hall, List.nil_append]

/-- The nodes that carry operators out in a frame lie in it. -/
theorem parent_of_carries {frame : Option FrameId} {emitted : List (EmittedNode NodeId)}
    {news : List (NodeId × Node)} (h : List.Forall₂ (Carries frame) emitted news) :
    ∀ entry ∈ news, entry.2.parent = frame := by
  induction h with
  | nil => exact fun _ hentry => absurd hentry List.not_mem_nil
  | cons hfirst _ ih => exact List.forall_mem_cons.mpr ⟨hfirst.parent, ih⟩

theorem adds_of_built {plan : Plan} {settings : Settings} {out : CompileOutput NodeId FrameId}
    {g' : Graph} (hc : plan.status ≠ .cancelled)
    (h : Built g₀ plan settings.formula settings.addFrame out g') :
    ∃ news links, Adds g₀ settings out news links g' := by
  obtain ⟨hsome, g, hframed, rfl⟩ := h.made hc
  obtain ⟨news, links, hg, hnews, hlinks⟩ := hframed.emitted
  have hcontents : List.Forall₂ (Carries out.frame) out.nodes news := by
    refine hnews.imp fun node entry hentry => EmittedAs.carries ?_
    cases hf : out.frame <;> simpa [hf] using hentry
  have hhandles : news.map (·.1) = out.nodes.map (·.handle) :=
    handles_of_forall₂ hcontents fun _ _ h => h.handle
  refine ⟨news, links, hg.name, hg.kind, congrArg (· + 1) hg.revision, hg.nodes, hhandles,
    hcontents, hg.connections, hlinks, ?_, ?_, ?_⟩
  · have hlength := congrArg List.length hlinks
    simpa [chained, ← hcontents.length_eq] using hlength
  · intro hadd hne
    have htrue : out.frame.isSome = true := by simp [hsome, hadd, hne]
    obtain ⟨frame, hf⟩ := Option.isSome_iff_exists.mp htrue
    have hparents := parent_of_carries hcontents
    have hframes := hg.frames
    rw [hf] at hparents hframes
    exact ⟨frame, hf, hframes,
      nodesInFrame_of_parents hg.nodes (hframed.outside frame hf) hparents⟩
  · intro hno
    have hfalse : out.frame.isSome = false := by
      rcases hno with hno | hno <;> simp [hsome, hno]
    have hf : out.frame = none :=
      Option.isNone_iff_eq_none.mp (Option.isSome_eq_false_iff.mp hfalse)
    have hframes := hg.frames
    rw [hf] at hframes
    exact ⟨hf, Table.eq_of_entries (hframes.trans (List.append_nil _))⟩

/-- **Compiling into a graph.** Settings that can drive a compilation never fail on a geometry
graph, whatever edits and compilations it has come from. If the compilation finishes, the graph
gains exactly its nodes, each of which carries out its operator, linked to a chain, and at most one
frame, and nothing else in it changes; if it is cancelled, nothing changes at all. A graph of another
kind refuses, and does not change. -/
theorem compile_adds [IdentitySupply] (catalog : Catalog) (settings : Settings)
    (hvalid : settings.isValid = true) (g : Graph) :
    (g.kind = .geometry → ∃ out g', sink.compile catalog settings g = (.ok out, g') ∧
      (out.status = .finished → ∃ news links, Adds g settings out news links g') ∧
      (out.status = .cancelled → g' = g)) ∧
    (g.kind ≠ .geometry → sink.compile catalog settings g =
      (.error (.sink (.unsupported (.unsupportedKind g.kind))), g)) := by
  constructor
  · intro hk
    obtain ⟨out, g', hyields, hbuilt⟩ := runs_build hk
      (Plan.ofFormula catalog settings.tempName settings.formula) settings.formula
      settings.addFrame g rfl
    refine ⟨out, g', GraphSink.compile_eq_ok.mpr ⟨hvalid, hyields⟩, fun hs => ?_, fun hs => ?_⟩
    · refine adds_of_built (fun hc => ?_) hbuilt
      rw [← hbuilt.status, hs] at hc
      cases hc
    · exact hbuilt.cancelled (hbuilt.status ▸ hs)
  · intro hk
    exact GraphSink.compile_of_notReady hvalid (Prod.ext (if_neg hk) rfl)

/-- Two operators make two linked nodes in a frame, beside the node that the graph has already. -/
theorem compile_adds_beside :
    ∃ out g', sink.compile .builtin ⟨"4 5 * sin -> area", "mf_temp", true⟩
        (default.addNode (default.newNode NodeKind.attributeMath.nodeType)) = (.ok out, g') ∧
      out.nodes.length = 2 ∧ g'.counts = [3, 1, 1, 1] := by
  obtain ⟨hgeometry, -⟩ := compile_adds .builtin ⟨"4 5 * sin -> area", "mf_temp", true⟩ (by decide)
    (default.addNode (default.newNode NodeKind.attributeMath.nodeType))
  obtain ⟨out, g', hcompile, hfinished, -⟩ := hgeometry rfl
  obtain ⟨hstatus, -, hnodes⟩ := GraphSink.compile_nodes (congrArg Prod.fst hcompile)
  have hsteps : (out.nodes.map EmittedNode.step).length = 2 := by
    rw [hnodes]
    decide +kernel
  rw [List.length_map] at hsteps
  obtain ⟨news, links, hadds⟩ := hfinished (hstatus.trans (by decide +kernel))
  have hne : out.nodes ≠ [] := fun h => by simp [h] at hsteps
  obtain ⟨frame, -, hframes, -⟩ := hadds.framed rfl hne
  have hnews : news.length = 2 := by
    simpa [hsteps] using congrArg List.length hadds.handles
  have hlinks : links.length = 1 := by
    rw [hadds.count, hsteps]
  refine ⟨out, g', hcompile, hsteps, ?_⟩
  simp only [counts, Table.size, hadds.nodes, hadds.connections, hframes, hadds.revision,
    List.length_append, hnews, hlinks]
  rfl

end FormulaChain.Graph
