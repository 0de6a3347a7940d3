import FormulaChain.Proofs.Graph.Recorded
import FormulaChain.Sink.Traced

/-!
# A graph and a recording sink in lockstep

Whatever is asked of a geometry graph, a recording sink that gets the calls the graph accepts stays
in correspondence with it (`Corresponds.lockstep`). A compilation is a sequence of calls that the
graph accepts, so the outputs of any compilations into the two are the same but for handles
(`Corresponds.compileAll`). Together these say that what is seen of formulas on a recording sink is
what happens in a graph (`corresponds_lockstep`).
-/

namespace FormulaChain

/-- Compilations one after the other. -/
def GraphSink.compileAll {σ N F E : Type} (sink : GraphSink σ N F E) :
    List (Catalog × Settings) → σ → List (Except (CompileError N F E) (CompileOutput N F)) × σ
  | [], state => ([], state)
  | (catalog, settings) :: jobs, state =>
    let (outcome, state) := sink.compile catalog settings state
    let (outcomes, state) := sink.compileAll jobs state
    (outcome :: outcomes, state)

namespace Graph

open SinkRun

variable {g g' : Graph} {r : Recording}


/-! ### Runs that follow others -/

theorem Corresponds.refresh (h : Corresponds g r) : Corresponds g.tagUpdate r.refresh :=
  ⟨h.kind, h.nodes, h.links, h.frames, congrArg (· + 1) h.revision⟩

/-- The first run only extends a graph, and if it gives an answer, the second run follows: from a
state that corresponds to the graph it gives the answer that is a function of the first, with the
numbers that nodes and frames have in a later graph, and the states correspond again. -/
structure RunFollows (fin : Graph) {α β : Type} (f : α → β)
    (run : SinkRun Graph NodeId FrameId GraphError α)
    (run' : SinkRun Recording Nat Nat Empty β) : Prop where
  /-- Nodes and frames stay. -/
  extend : ∀ g : Graph, g.Extends (run.outcome g).2
  /-- The second run gives the answer of the first. -/
  follow : ∀ {g r a g'}, Corresponds g r → Yields run g a g' → g'.Extends fin →
    ∃ r', Yields run' r (f a) r' ∧ Corresponds g' r'

theorem RunFollows.bind {fin : Graph} {α α' β β' : Type} {f : α → α'} {f' : β → β'}
    {run : SinkRun Graph NodeId FrameId GraphError α} {run' : SinkRun Recording Nat Nat Empty α'}
    {next : α → SinkRun Graph NodeId FrameId GraphError β}
    {next' : α' → SinkRun Recording Nat Nat Empty β'} (h : RunFollows fin f run run')
    (hn : ∀ a, RunFollows fin f' (next a) (next' (f a))) :
    RunFollows fin f' (run >>= next) (run' >>= next') := by
  constructor
  · intro g
    rw [outcome_bind]
    have hext := h.extend g
    cases hr : run.outcome g with
    | mk result g₁ =>
      rw [hr] at hext
      cases result with
      | ok a => exact hext.trans ((hn a).extend g₁)
      | error e => exact hext
  · intro g r b g' hcorresponds hy hext
    obtain ⟨a, g₁, hy₁, hy₂⟩ := yields_bind.mp hy
    have hlater : g₁.Extends g' := by
      have hnext := (hn a).extend g₁
      rwa [hy₂] at hnext
    obtain ⟨r₁, hr₁, hcorresponds₁⟩ := h.follow hcorresponds hy₁ (hlater.trans hext)
    obtain ⟨r', hr', hcorresponds'⟩ := (hn a).follow hcorresponds₁ hy₂ hext
    exact ⟨r', hr₁.bind hr', hcorresponds'⟩

section Lockstep

variable [IdentitySupply]

/-! ### Calls -/

/-- One call to a graph and, if the graph accepts it, to a recording sink, which gets the numbers of
nodes and frames in the order of their creation. -/
def issue (state : Graph × Recording) : SinkCall NodeId FrameId → Graph × Recording
  | .refresh => (sink.refresh state.1, Recording.sink.refresh state.2)
  | .request request =>
    match answer request state.1 with
    | (.ok _, g) =>
      (g, (Recording.sink.perform (request.rename g.nodeNumber g.frameNumber) state.2).2)
    | (.error _, g) => (g, state.2)

/-- A new geometry graph and a new recording sink after some calls. -/
def lockstep (name : String) (calls : List (SinkCall NodeId FrameId)) : Graph × Recording :=
  calls.foldl issue (empty name .geometry, .empty)

/-- A call keeps a graph and a recording sink in correspondence. -/
theorem Corresponds.issue {state : Graph × Recording} (h : Corresponds state.1 state.2)
    (call : SinkCall NodeId FrameId) :
    Corresponds (issue state call).1 (issue state call).2 := by
  cases call with
  | refresh => exact h.refresh
  | request request =>
    cases ha : Graph.answer request state.1 with
    | mk result g =>
      cases result with
      | ok a =>
        obtain ⟨r, hr, hcorresponds⟩ := h.answer ha (.refl g)
        simpa [Graph.issue, ha, hr] using hcorresponds
      | error e =>
        have hsame : g = state.1 := by simpa [ha] using answer_of_error (congrArg Prod.fst ha)
        simpa [Graph.issue, ha, hsame] using h

/-- **A graph and a recording sink stay in correspondence.** -/
theorem Corresponds.lockstep (name : String) (calls : List (SinkCall NodeId FrameId)) :
    Corresponds (lockstep name calls).1 (lockstep name calls).2 := by
  have hrun (state : Graph × Recording) (h : Corresponds state.1 state.2) :
      Corresponds (calls.foldl Graph.issue state).1 (calls.foldl Graph.issue state).2 := by
    induction calls generalizing state with
    | nil => exact h
    | cons call calls ih => exact ih _ (h.issue call)
  exact hrun _ (corresponds_empty name)

/-! ### Compilations -/

/-- Whole runs on a recording sink follow those on a graph. -/
theorem mirrors_runFollows (fin : Graph) :
    Mirrors sink Recording.sink fin.nodeNumber fin.frameNumber (RunFollows fin) where
  pure f a := by
    refine ⟨fun g => .refl g, fun h hy _ => ?_⟩
    obtain ⟨rfl, rfl⟩ := yields_pure.mp hy
    exact ⟨_, yields_pure.mpr ⟨rfl, rfl⟩, h⟩
  bind := RunFollows.bind
  call request := ⟨fun g => (change_answer request g).extends, fun h hy hext => h.answer hy hext⟩
  refresh := by
    refine ⟨fun g => ⟨List.prefix_rfl, List.prefix_rfl⟩, fun h hy _ => ?_⟩
    cases hy
    exact ⟨_, rfl, h.refresh⟩

/-- Two compilations end alike: with outputs that are the same but for handles, or with the same
settings that cannot be used. -/
inductive SameOutcome (fin : Graph) :
    Except (CompileError NodeId FrameId GraphError) (CompileOutput NodeId FrameId) →
    Except (CompileError Nat Nat Empty) (CompileOutput Nat Nat) → Prop where
  /-- Both give an output. -/
  | output (out : CompileOutput NodeId FrameId) :
    SameOutcome fin (.ok out) (.ok (out.rename fin.nodeNumber fin.frameNumber))
  /-- Neither can begin. -/
  | invalid (stem : String) :
    SameOutcome fin (.error (.invalidStem stem)) (.error (.invalidStem stem))

theorem extends_compile (catalog : Catalog) (settings : Settings) (g : Graph) :
    g.Extends (sink.compile catalog settings g).2 := by
  refine GraphSink.compile_preserves (fun request g' h => ?_) (fun g' h => ?_) catalog settings
    (Extends.refl g)
  · exact h.trans (change_answer request g').extends
  · exact h.trans ⟨List.prefix_rfl, List.prefix_rfl⟩

/-- A compilation ends alike in a graph and in a recording sink. -/
theorem Corresponds.compile (h : Corresponds g r) (catalog : Catalog) (settings : Settings)
    {fin : Graph} (hext : (sink.compile catalog settings g).2.Extends fin) :
    SameOutcome fin (sink.compile catalog settings g).1
        (Recording.sink.compile catalog settings r).1 ∧
      Corresponds (sink.compile catalog settings g).2
        (Recording.sink.compile catalog settings r).2 := by
  by_cases hvalid : settings.isValid = true
  · obtain ⟨out, g', hy, -⟩ := runs_build h.kind
      (Plan.ofFormula catalog settings.tempName settings.formula) settings.formula
      settings.addFrame g rfl
    have hcompile := GraphSink.compile_eq_ok.mpr ⟨hvalid, hy⟩
    rw [hcompile] at hext ⊢
    have hbuild := (mirrors_runFollows fin).build
      (Plan.ofFormula catalog settings.tempName settings.formula) settings.formula
      settings.addFrame
    obtain ⟨r', hr', hcorresponds⟩ := hbuild.follow h hy hext
    rw [GraphSink.compile_eq_ok.mpr ⟨hvalid, hr'⟩]
    exact ⟨.output out, hcorresponds⟩
  · simp only [GraphSink.compile, hvalid]
    exact ⟨.invalid _, h⟩

theorem extends_compileAll (jobs : List (Catalog × Settings)) (g : Graph) :
    g.Extends (sink.compileAll jobs g).2 := by
  induction jobs generalizing g with
  | nil => exact .refl g
  | cons job jobs ih => exact (extends_compile job.1 job.2 g).trans (ih _)

/-- **Compilations end alike in a graph and in a recording sink.** -/
theorem Corresponds.compileAll (h : Corresponds g r) (jobs : List (Catalog × Settings))
    {fin : Graph} (hext : (sink.compileAll jobs g).2.Extends fin) :
    List.Forall₂ (SameOutcome fin) (sink.compileAll jobs g).1
        (Recording.sink.compileAll jobs r).1 ∧
      Corresponds (sink.compileAll jobs g).2 (Recording.sink.compileAll jobs r).2 := by
  induction jobs generalizing g r with
  | nil => exact ⟨.nil, h⟩
  | cons job jobs ih =>
    obtain ⟨hsame, hcorresponds⟩ := h.compile job.1 job.2
      ((extends_compileAll jobs _).trans hext)
    obtain ⟨hrest, hlast⟩ := ih hcorresponds hext
    exact ⟨.cons hsame hrest, hlast⟩

/-- **A recording sink shows what happens in a graph.** After any calls to a new geometry graph, of
which a new recording sink got those that the graph accepted, the two correspond. The recording sink
answers every request as the graph does that the graph accepts next, and whatever is compiled next,
the outputs are the same; handles are numbered in the order of creation. -/
theorem corresponds_lockstep (name : String) (calls : List (SinkCall NodeId FrameId)) :
    Corresponds (lockstep name calls).1 (lockstep name calls).2 ∧
    (∀ request a g', answer request (lockstep name calls).1 = (.ok a, g') →
      (Recording.sink.perform (request.rename g'.nodeNumber g'.frameNumber)
        (lockstep name calls).2).1 =
          .ok (request.renameAnswer g'.nodeNumber g'.frameNumber a)) ∧
    ∀ jobs : List (Catalog × Settings),
      List.Forall₂ (SameOutcome (sink.compileAll jobs (lockstep name calls).1).2)
          (sink.compileAll jobs (lockstep name calls).1).1
          (Recording.sink.compileAll jobs (lockstep name calls).2).1 ∧
        Corresponds (sink.compileAll jobs (lockstep name calls).1).2
          (Recording.sink.compileAll jobs (lockstep name calls).2).2 := by
  have hcorresponds := Corresponds.lockstep name calls
  refine ⟨hcorresponds, fun request a g' ha => ?_, fun jobs => ?_⟩
  · obtain ⟨r', hr', -⟩ := hcorresponds.answer ha (.refl g')
    rw [hr']
  · exact hcorresponds.compileAll jobs (.refl _)

end Lockstep

/-- Two nodes are linked, the second time in vain, and the second is moved. -/
def linkTwice : List (SinkCall NodeId FrameId) := [
  .request (.createNode .attributeMath),
  .request (.createNode .attributeVectorMath),
  .request (.connect ⟨1⟩ .geometry ⟨11⟩ .geometry),
  .request (.connect ⟨1⟩ .geometry ⟨11⟩ .geometry),
  .request (.setPosition ⟨11⟩ (.ofNat 190, .zero)),
  .refresh]

/-- One link is recorded, and the node that was moved is found where it is in the graph. -/
theorem corresponds_lockstep_linkTwice :
    (lockstep "Links" linkTwice).2.counts = [2, 1, 0, 1] ∧
      Corresponds (lockstep "Links" linkTwice).1 (lockstep "Links" linkTwice).2 ∧
      ((lockstep "Links" linkTwice).2.layout 1) = .ok ⟨(.ofNat 190, .zero), defaultNodeWidth⟩ := by
  obtain ⟨hcorresponds, hanswer, -⟩ := corresponds_lockstep "Links" linkTwice
  have hfound : (((lockstep "Links" linkTwice).1.node? ⟨11⟩).map fun n =>
      (n.position, n.width)) = some ((.ofNat 190, .zero), defaultNodeWidth) := by decide +kernel
  obtain ⟨n, hn, hplaced⟩ := Option.map_eq_some_iff.mp hfound
  have hlayout := hanswer (.nodeLayout ⟨11⟩) ⟨n.position, n.width⟩
    (lockstep "Links" linkTwice).1 (by simp [answer, hn])
  have hnumber : (lockstep "Links" linkTwice).1.nodeNumber ⟨11⟩ = 1 := by decide +kernel
  refine ⟨by decide +kernel, hcorresponds, ?_⟩
  obtain ⟨hposition, hwidth⟩ := Prod.mk.inj hplaced
  rw [← hnumber, ← hposition, ← hwidth]
  exact hlayout

end Graph

end FormulaChain
