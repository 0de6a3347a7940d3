import FormulaChain.Proofs.Sink.Build
import FormulaChain.Sink.Recording

/-!
# A recording sink refuses no build

A recording sink refuses a request exactly if that names a node or a frame it does not have
(`isOk_answer_iff`). A build names only nodes and frames that it has created, so with valid settings
every compilation into a recording sink gives an output (`exists_compile`).
-/

namespace FormulaChain.Recording

open SinkRun

/-- The nodes and the frame that a request names are there. -/
def Knows (r : Recording) : Request Nat Nat → Prop
  | .ensureReady | .createNode _ | .createFrame _ => True
  | .nodeLayout node | .setPosition node _ | .setOperation node _ | .setInputKind node _ _
  | .setInputValue node _ _ => node < r.nodes.length
  | .connect source _ target _ => source < r.nodes.length ∧ target < r.nodes.length
  | .assignToFrame node frame => frame < r.frames.length ∧ node < r.nodes.length

theorem change_of_lt {r : Recording} {node : Nat} (h : node < r.nodes.length)
    (f : RecordedNode → RecordedNode) :
    change node f r = (.ok (), { r with nodes := r.nodes.modify node f }) :=
  if_pos h

theorem change_of_not_lt {r : Recording} {node : Nat} (h : ¬ node < r.nodes.length)
    (f : RecordedNode → RecordedNode) : change node f r = (.error (.unknownNode node), r) :=
  if_neg h

theorem isOk_change_iff {r : Recording} {node : Nat} {f : RecordedNode → RecordedNode} :
    (∃ a, (change node f r).1 = .ok a) ↔ node < r.nodes.length := by
  by_cases h : node < r.nodes.length
  · simp [change_of_lt h, h]
  · simp [change_of_not_lt h, h]

/-- **Exactly the requests that name known nodes and frames are accepted.** -/
theorem isOk_answer_iff {r : Recording} {width : Single} {request : Request Nat Nat} :
    (∃ a, (answer width request r).1 = .ok a) ↔ r.Knows request := by
  cases request with
  | ensureReady => exact ⟨fun _ => trivial, fun _ => ⟨_, rfl⟩⟩
  | createNode kind => exact ⟨fun _ => trivial, fun _ => ⟨_, rfl⟩⟩
  | createFrame label => exact ⟨fun _ => trivial, fun _ => ⟨_, rfl⟩⟩
  | nodeLayout node =>
    by_cases h : node < r.nodes.length
    · simpa [answer, layout, Knows, h] using ⟨_, rfl⟩
    · simp [answer, layout, Knows, h]
  | setPosition node position => exact isOk_change_iff
  | setOperation node operation => exact isOk_change_iff
  | setInputKind node slot kind => exact isOk_change_iff
  | setInputValue node socket value => exact isOk_change_iff
  | connect source output target input =>
    by_cases hs : source < r.nodes.length
    · by_cases ht : target < r.nodes.length
      · simpa [answer, link, Knows, hs, ht, Nat.not_le.mpr hs, Nat.not_le.mpr ht] using ⟨_, rfl⟩
      · simp [answer, link, Knows, ht, Nat.not_le.mpr hs, Nat.le_of_not_lt ht]
    · simp [answer, link, Knows, hs, Nat.le_of_not_lt hs]
  | assignToFrame node frame =>
    by_cases hf : frame < r.frames.length
    · simp only [answer, assign, Knows, Nat.not_le.mpr hf, if_false, hf, true_and]
      exact isOk_change_iff
    · simp [answer, assign, Knows, hf, Nat.le_of_not_lt hf]

/-- Nothing that is known is forgotten. -/
structure Keeps (r r' : Recording) : Prop where
  /-- Nodes stay. -/
  nodes : r.nodes.length ≤ r'.nodes.length
  /-- Frames stay. -/
  frames : r.frames.length ≤ r'.frames.length

theorem Keeps.refl (r : Recording) : Keeps r r := ⟨Nat.le_refl _, Nat.le_refl _⟩

theorem Keeps.trans {r₁ r₂ r₃ : Recording} (h : Keeps r₁ r₂) (h' : Keeps r₂ r₃) : Keeps r₁ r₃ :=
  ⟨Nat.le_trans h.nodes h'.nodes, Nat.le_trans h.frames h'.frames⟩

theorem change_keeps (r : Recording) (node : Nat) (f : RecordedNode → RecordedNode) :
    Keeps r (change node f r).2 := by
  by_cases h : node < r.nodes.length
  · rw [change_of_lt h]
    exact ⟨by simp, Nat.le_refl _⟩
  · rw [change_of_not_lt h]
    exact .refl r

theorem answer_keeps (width : Single) (request : Request Nat Nat) (r : Recording) :
    Keeps r (answer width request r).2 := by
  cases request with
  | ensureReady => exact .refl r
  | createNode kind => exact ⟨by simp [answer], Nat.le_refl _⟩
  | createFrame label => exact ⟨Nat.le_refl _, by simp [answer]⟩
  | nodeLayout node => exact .refl r
  | setPosition node position => exact change_keeps ..
  | setOperation node operation => exact change_keeps ..
  | setInputKind node slot kind => exact change_keeps ..
  | setInputValue node socket value => exact change_keeps ..
  | connect source output target input =>
    simp only [answer, link]
    split
    · exact .refl r
    · split
      · exact .refl r
      · exact ⟨Nat.le_refl _, Nat.le_refl _⟩
  | assignToFrame node frame =>
    simp only [answer, assign]
    split
    · exact .refl r
    · exact change_keeps ..

/-! ### Builds -/

/-- A property that stays as long as nothing is forgotten is kept by a request that names known
nodes and frames. -/
theorem runs_call {P : Recording → Prop} {request : Request Nat Nat}
    (hk : ∀ r, P r → r.Knows request) (hp : ∀ r r', P r → Keeps r r' → P r') :
    Runs P (sink.call request) fun _ => P := by
  intro r hr
  obtain ⟨a, ha⟩ := isOk_answer_iff.mpr (hk r hr)
  exact ⟨a, _, Prod.ext ha rfl, hp r _ hr (answer_keeps defaultNodeWidth request r)⟩

/-- The nodes with some numbers are there. -/
def HasNodes (nodes : List Nat) (r : Recording) : Prop := ∀ node ∈ nodes, node < r.nodes.length

theorem HasNodes.keeps {nodes : List Nat} {r r' : Recording} (h : HasNodes nodes r)
    (hk : Keeps r r') : HasNodes nodes r' :=
  fun node hmem => Nat.lt_of_lt_of_le (h node hmem) hk.nodes

/-- Requests about nodes that are there. -/
theorem runs_call_hasNodes {nodes : List Nat} {request : Request Nat Nat}
    (h : ∀ r, HasNodes nodes r → r.Knows request) :
    Runs (HasNodes nodes) (sink.call request) fun _ => HasNodes nodes :=
  runs_call h fun _ _ => HasNodes.keeps

theorem runs_createNode (nodes : List Nat) (kind : NodeKind) :
    Runs (HasNodes nodes) (sink.call (.createNode kind)) fun node : Nat =>
      HasNodes (nodes ++ [node]) := by
  intro r hr
  refine ⟨_, _, rfl, fun node hmem => ?_⟩
  simp only [List.length_append, List.length_singleton]
  rcases List.mem_append.mp hmem with hmem | hmem
  · exact Nat.lt_succ_of_lt (hr node hmem)
  · rw [List.mem_singleton.mp hmem]
    exact Nat.lt_succ_self _

/-- The handles of emitted nodes. -/
abbrev handles (emitted : List (EmittedNode Nat)) : List Nat := emitted.map (·.handle)

theorem runs_place (emitted : List (EmittedNode Nat)) (node : Nat) :
    Runs (HasNodes (handles emitted ++ [node])) (sink.place emitted.getLast? node) fun _ =>
      HasNodes (handles emitted ++ [node]) := by
  have hnew : ∀ r, HasNodes (handles emitted ++ [node]) r → node < r.nodes.length :=
    fun r h => h node (List.mem_append_right _ List.mem_cons_self)
  unfold GraphSink.place
  cases hl : emitted.getLast? with
  | none =>
    show Runs _ (pure originPosition >>= fun position =>
      sink.call (.setPosition node position) >>= fun _ => pure position) _
    refine Runs.bind (Q := fun _ => HasNodes (handles emitted ++ [node])) (runs_pure fun _ h => h)
      fun position => ?_
    exact (runs_call_hasNodes hnew).bind fun _ => runs_pure fun _ h => h
  | some before =>
    have hbefore : ∀ r, HasNodes (handles emitted ++ [node]) r → before.handle < r.nodes.length :=
      fun r h => h _ (List.mem_append_left _ (List.mem_map_of_mem (List.mem_of_getLast? hl)))
    refine (runs_call_hasNodes hbefore).bind fun layout => ?_
    refine Runs.bind (runs_call_hasNodes fun r h => ⟨hbefore r h, hnew r h⟩) fun _ => ?_
    refine Runs.bind (Q := fun _ => HasNodes (handles emitted ++ [node])) (runs_pure fun _ h => h)
      fun position => ?_
    exact (runs_call_hasNodes hnew).bind fun _ => runs_pure fun _ h => h

theorem runs_emitStep (emitted : List (EmittedNode Nat)) (step : Step) :
    Runs (HasNodes (handles emitted)) (sink.emitStep emitted step) fun out =>
      HasNodes (handles out) := by
  unfold GraphSink.emitStep
  refine (runs_createNode (handles emitted) _).bind fun (node : Nat) => ?_
  have hnew : ∀ r, HasNodes (handles emitted ++ [node]) r → node < r.nodes.length :=
    fun r h => h node (List.mem_append_right _ List.mem_cons_self)
  refine (runs_place emitted node).bind fun position => ?_
  refine (runs_call_hasNodes hnew).bind fun _ => ?_
  refine Runs.bind (Runs.forM fun binding _ => ?_) fun _ => ?_
  · exact (runs_call_hasNodes hnew).bind fun _ => runs_call_hasNodes hnew
  · refine (runs_call_hasNodes hnew).bind fun _ => runs_pure fun r h => ?_
    simpa [handles] using h

theorem runs_nameNodes (plan : Plan) (emitted : List (EmittedNode Nat)) :
    Runs (HasNodes (handles emitted)) (sink.nameNodes plan emitted) fun out =>
      HasNodes (handles out) := by
  unfold GraphSink.nameNodes
  cases plan.finalName with
  | none => exact runs_pure fun _ h => h
  | some name =>
    unfold GraphSink.renameLast
    rcases List.eq_nil_or_concat emitted with rfl | ⟨front, last, rfl⟩
    · exact runs_pure fun _ h => h
    · simp only [List.concat_eq_append, List.getLast?_concat, List.dropLast_concat]
      refine (runs_call_hasNodes fun r h => ?_).bind fun _ => runs_pure fun r h => ?_
      · exact h _ (by simp [handles])
      · simpa [handles] using h

theorem runs_frameIf (addFrame : Bool) (emitted : List (EmittedNode Nat)) (label : String) :
    Runs (HasNodes (handles emitted)) (sink.frameIf addFrame emitted label) fun _ _ => True := by
  unfold GraphSink.frameIf GraphSink.frameNodes
  cases addFrame with
  | false => exact runs_pure fun _ _ => trivial
  | true =>
    rw [if_pos rfl]
    by_cases he : emitted.isEmpty
    · simp only [he]
      exact runs_pure fun _ _ => trivial
    · simp only [he]
      refine Runs.bind (Q := fun frame r => HasNodes (handles emitted) r ∧ frame < r.frames.length)
        ?_ fun frame => Runs.bind (Runs.forM fun node hmem => ?_) fun _ => ?_
      · exact fun r h => ⟨_, _, rfl, h, by simp⟩
      · refine runs_call (fun r h => ⟨h.2, h.1 _ (List.mem_map_of_mem hmem)⟩) fun r r' h hk => ?_
        exact ⟨h.1.keeps hk, Nat.lt_of_lt_of_le h.2 hk.frames⟩
      · exact runs_pure fun _ _ => trivial

/-- **A recording sink refuses no build.** -/
theorem runs_build (plan : Plan) (label : String) (addFrame : Bool) :
    Runs (fun _ => True) (sink.build plan label addFrame) fun _ _ => True := by
  rw [GraphSink.build_eq]
  refine Runs.bind (Q := fun _ => HasNodes []) (fun r _ => ⟨_, _, rfl, by simp [HasNodes]⟩)
    fun _ => ?_
  by_cases hc : plan.status = .cancelled
  · rw [if_pos hc]
    exact runs_pure fun _ _ => trivial
  · rw [if_neg hc]
    refine (Runs.foldlM (fun b a _ => runs_emitStep b a) []).bind fun emitted => ?_
    refine (runs_nameNodes plan emitted).bind fun named => ?_
    refine (runs_frameIf addFrame named label).bind fun frame => ?_
    refine Runs.bind (Q := fun _ _ => True) (fun r _ => ⟨_, _, rfl, trivial⟩) fun _ => ?_
    exact runs_pure fun _ _ => trivial

/-- With valid settings every compilation into a recording sink gives an output. -/
theorem exists_compile {catalog : Catalog} {settings : Settings} (hv : settings.isValid = true)
    (r : Recording) : ∃ out, (sink.compile catalog settings r).1 = .ok out := by
  obtain ⟨out, r', hy, -⟩ := runs_build (Plan.ofFormula catalog settings.tempName settings.formula)
    settings.formula settings.addFrame r trivial
  exact ⟨out, congrArg Prod.fst (GraphSink.compile_eq_ok.mpr ⟨hv, hy⟩)⟩

end FormulaChain.Recording
