import FormulaChain.Proofs.Catalog.Builtin
import FormulaChain.Proofs.Catalog.Tables
import FormulaChain.Proofs.Formula.Operators
import FormulaChain.Proofs.Sink.Failure

/-!
# Cancelled compilations

A compilation is cancelled exactly if its formula has a result arrow and no operator before the
first of them, and exactly if an error is among the reports (`compile_cancelled_iff`). Then nothing
is asked of the sink but whether it is ready. Otherwise the compilation is finished, and a refresh
is the last call of all and the only one of its kind.

All this is for sinks that refuse no call of the compilation (`answersAll`); a compilation can fail
in no other way (`compile_stops`).
-/

namespace FormulaChain

variable {σ N F E : Type}

/-! ### Plans -/

namespace Plan

variable {catalog : Catalog} {stem : String} {words : List String}

/-- A plan is cancelled by an arrow with no operator before it. -/
theorem status_eq_cancelled_iff :
    (ofWords catalog stem words).status = .cancelled ↔ resultArrow ∈ words ∧
      ∀ word ∈ words.takeWhile (· ≠ resultArrow), catalog.lookup word .either = none := by
  have hsteps : (evaluationBefore catalog stem words).steps = [] ↔ _ :=
    Evaluation.readWords_steps_eq_nil_iff
  rw [← hsteps]
  rcases ofWords_cases catalog stem words with ⟨harrow, hs, hplan⟩ | ⟨hne, hplan⟩
  · rw [hplan]
    exact ⟨fun _ => ⟨harrow, hs⟩, fun _ => rfl⟩
  · rw [hplan]
    exact ⟨fun h => (by cases h), fun h => absurd h.2 (hne h.1)⟩

/-- A cancelled plan reports that there is nothing to name, and nothing else. -/
theorem diagnostics_of_cancelled (h : (ofWords catalog stem words).status = .cancelled) :
    (ofWords catalog stem words).diagnostics = [nothingToName] := by
  obtain ⟨-, hno⟩ := status_eq_cancelled_iff.mp h
  rcases ofWords_cases catalog stem words with ⟨-, -, hplan⟩ | ⟨-, hplan⟩
  · rw [hplan, evaluationBefore, Evaluation.readWords_operands hno]
    rfl
  · rw [hplan] at h
    cases h

/-- Any other plan reports nothing but warnings. -/
theorem allWarnings_of_finished (h : (ofWords catalog stem words).status = .finished) :
    AllWarnings (ofWords catalog stem words).diagnostics := by
  rw [(ofWords_of_finished h).2]
  exact Evaluation.readWords_warnings catalog _

theorem status_eq_cancelled_iff_error :
    (ofWords catalog stem words).status = .cancelled ↔
      ∃ d ∈ (ofWords catalog stem words).diagnostics, d.severity = .error := by
  constructor
  · intro h
    rw [diagnostics_of_cancelled h]
    exact ⟨nothingToName, List.mem_cons_self, rfl⟩
  · rintro ⟨d, hd, herror⟩
    cases hs : (ofWords catalog stem words).status with
    | cancelled => rfl
    | finished =>
      have hwarning := allWarnings_of_finished hs d hd
      rw [herror] at hwarning
      cases hwarning

end Plan

/-! ### Calls that are answered -/

namespace GraphSink

/-- Whether none of some calls is refused when they are made in turn. -/
def answersAll (sink : GraphSink σ N F E) : List (SinkCall N F) → σ → Bool
  | [], _ => true
  | .refresh :: calls, state => sink.answersAll calls (sink.refresh state)
  | .request request :: calls, state =>
    (sink.perform request state).1.isOk && sink.answersAll calls (sink.perform request state).2

theorem isOk_of_answersAll {sink : GraphSink σ N F E} {front : List (SinkCall N F)}
    {request : Request N F} {state : σ}
    (h : sink.answersAll (front ++ [.request request]) state = true) :
    (sink.perform request (sink.after front state)).1.isOk = true := by
  induction front generalizing state with
  | nil =>
    rw [List.nil_append, answersAll, Bool.and_eq_true] at h
    exact h.1
  | cons call front ih =>
    cases call with
    | refresh => exact ih h
    | request first =>
      rw [List.cons_append, answersAll, Bool.and_eq_true] at h
      exact ih h.2

end GraphSink

namespace Traced

open SinkRun

section Stops

variable (inner : GraphSink σ N F E) (state : σ)

/-- The last of some calls is a request that is refused for a reason. -/
def EndsInRefusal (calls : List (SinkCall N F)) (reason : SinkError N F E) : Prop :=
  ∃ front request, calls = front ++ [.request request] ∧
    (inner.perform request (inner.after front state)).1 = .error reason

/-- Whatever calls came before, a traced run answers what the run does, adds the calls that lead
where the run does, and fails only at one that is refused. -/
def StopsAtRefusal {α β : Type} (f : α → β) (run : SinkRun σ N F E α)
    (traced : SinkRun (Traced σ N F) N F E β) : Prop :=
  ∀ before, ∃ later result,
    run.outcome (inner.after before state) = (result, inner.after (before ++ later) state) ∧
      traced.outcome (reached inner state before) =
        (result.map f, reached inner state (before ++ later)) ∧
      ∀ reason, result = .error reason → EndsInRefusal inner state (before ++ later) reason

variable {inner state}

theorem stopsAtRefusal_pure {α β : Type} (f : α → β) (a : α) :
    StopsAtRefusal inner state f (pure a) (pure (f a)) := by
  intro before
  refine ⟨[], .ok a, ?_, ?_, fun _ h => by cases h⟩
  · rw [List.append_nil]
    rfl
  · rw [List.append_nil]
    rfl

theorem StopsAtRefusal.bind {α α' β β' : Type} {f : α → α'} {g : β → β'}
    {run : SinkRun σ N F E α} {traced : SinkRun (Traced σ N F) N F E α'}
    {next : α → SinkRun σ N F E β} {next' : α' → SinkRun (Traced σ N F) N F E β'}
    (h : StopsAtRefusal inner state f run traced)
    (hn : ∀ a, StopsAtRefusal inner state g (next a) (next' (f a))) :
    StopsAtRefusal inner state g (run >>= next) (traced >>= next') := by
  intro before
  obtain ⟨later, result, hrun, htraced, hstop⟩ := h before
  cases result with
  | error e =>
    refine ⟨later, .error e, outcome_bind_of_error hrun, outcome_bind_of_error htraced, ?_⟩
    intro reason heq
    cases heq
    exact hstop e rfl
  | ok a =>
    obtain ⟨more, result, hrun', htraced', hstop'⟩ := hn a (before ++ later)
    rw [List.append_assoc] at hrun' htraced' hstop'
    refine ⟨later ++ more, result, ?_, ?_, hstop'⟩
    · rw [outcome_bind, hrun]
      exact hrun'
    · rw [outcome_bind, htraced]
      exact htraced'

theorem stopsAtRefusal_call (reason : SinkError N F E) (request : Request N F) :
    StopsAtRefusal inner state id (inner.call request)
      ((sink inner none reason).call request) := by
  intro before
  refine ⟨[.request request], (inner.perform request (inner.after before state)).1, ?_, ?_, ?_⟩
  · rw [GraphSink.after_concat]
    rfl
  · rw [reached_concat, Except.map_id]
    rfl
  · exact fun reason heq => ⟨before, request, rfl, heq⟩

/-- A traced sink fails only at refusals. -/
theorem mirrors_stopsAtRefusal (inner : GraphSink σ N F E) (state : σ) (reason : SinkError N F E) :
    Mirrors inner (sink inner none reason) id id (StopsAtRefusal inner state) where
  pure := stopsAtRefusal_pure
  bind := StopsAtRefusal.bind
  call request := by cases request <;> exact stopsAtRefusal_call reason _
  refresh before := by
    refine ⟨[.refresh], .ok (), ?_, ?_, fun _ h => by cases h⟩
    · rw [GraphSink.after_concat]
      rfl
    · rw [reached_concat]
      rfl

end Stops

end Traced

namespace GraphSink

open SinkRun Traced

/-! ### Compilations -/

/-- The calls that a compilation makes. The reason plays no part, for no call is made to fail. -/
def callsOf (sink : GraphSink σ N F E) (catalog : Catalog) (settings : Settings) (state : σ) :
    List (SinkCall N F) :=
  (sink.compileTraced none (.missingSocket .attributeMath "") catalog settings state).2.calls

section Compile

variable {sink : GraphSink σ N F E} {catalog : Catalog} {settings : Settings} {state : σ}

/-- **A compilation fails only at a call that is refused**, and leaves what its calls lead to. -/
theorem compile_stops (hvalid : settings.isValid = true) :
    ∃ result : Except (SinkError N F E) (CompileOutput N F),
      sink.compile catalog settings state =
        (result.mapError .sink, sink.after (sink.callsOf catalog settings state) state) ∧
      ∀ reason, result = .error reason →
        EndsInRefusal sink state (sink.callsOf catalog settings state) reason := by
  obtain ⟨later, result, hrun, htraced, hstop⟩ :=
    (mirrors_stopsAtRefusal sink state (.missingSocket .attributeMath "")).build
      (Plan.ofFormula catalog settings.tempName settings.formula) settings.formula
      settings.addFrame []
  rw [List.nil_append] at hrun htraced hstop
  have hcalls : sink.callsOf catalog settings state = later := by
    rw [callsOf, compileTraced, compile_of_isValid hvalid]
    exact congrArg (·.2.calls) htraced
  have hstart : sink.after [] state = state := rfl
  rw [hstart] at hrun
  rw [compile_of_isValid hvalid, hrun, hcalls]
  exact ⟨result, rfl, hstop⟩

/-- If no call is refused, a compilation gives an output. -/
theorem exists_compile_of_answersAll (hvalid : settings.isValid = true)
    (h : sink.answersAll (sink.callsOf catalog settings state) state = true) :
    ∃ out, sink.compile catalog settings state =
      (.ok out, sink.after (sink.callsOf catalog settings state) state) := by
  obtain ⟨result, hcompile, hstop⟩ := compile_stops hvalid
  cases result with
  | ok out => exact ⟨out, hcompile⟩
  | error reason =>
    obtain ⟨front, request, hcalls, hrefused⟩ := hstop reason rfl
    rw [hcalls] at h
    have hok := isOk_of_answersAll h
    rw [hrefused] at hok
    cases hok

/-- A compilation that gives an output is traced like any other. -/
theorem traced_build_yields {out : CompileOutput N F}
    (h : (sink.compile catalog settings state).1 = .ok out) :
    ∃ t, Yields ((Traced.sink sink none (.missingSocket .attributeMath "")).build
        (Plan.ofFormula catalog settings.tempName settings.formula) settings.formula
        settings.addFrame) (.start state) out t ∧
      t.calls = sink.callsOf catalog settings state := by
  obtain ⟨calls, htraced⟩ :=
    compile_traced sink (.missingSocket .attributeMath "") catalog settings state
  rw [h] at htraced
  refine ⟨_, (compile_eq_ok.mp htraced).2, ?_⟩
  rw [callsOf, htraced]

/-- A cancelled compilation asks only whether the sink is ready. -/
theorem callsOf_of_cancelled {out : CompileOutput N F}
    (h : (sink.compile catalog settings state).1 = .ok out) (hc : out.status = .cancelled) :
    sink.callsOf catalog settings state = [.request .ensureReady] := by
  obtain ⟨t, hy, hcalls⟩ := traced_build_yields h
  have hplan := (compile_nodes h).1.symm.trans hc
  rw [build_eq, if_pos hplan] at hy
  obtain ⟨_, t₁, hready, hend⟩ := yields_bind.mp hy
  obtain ⟨-, rfl⟩ := yields_pure.mp hend
  rw [← hcalls]
  have hpair := congrArg (·.2.calls) hready
  exact hpair.symm

/-- Any other compilation refreshes the sink once, at its end. -/
theorem callsOf_of_finished {out : CompileOutput N F}
    (h : (sink.compile catalog settings state).1 = .ok out) (hc : out.status ≠ .cancelled) :
    ∃ before, sink.callsOf catalog settings state = before ++ [.refresh] ∧
      .refresh ∉ before := by
  obtain ⟨t, hy, hcalls⟩ := traced_build_yields h
  have hplan : (Plan.ofFormula catalog settings.tempName settings.formula).status ≠ .cancelled :=
    fun heq => hc ((compile_nodes h).1.trans heq)
  rw [build_eq, if_neg hplan] at hy
  obtain ⟨_, t₁, hready, hy⟩ := yields_bind.mp hy
  obtain ⟨emitted, t₂, named, t₃, frame, t₄, hemit, hname, hframe, -, rfl⟩ := buildNodes_yields hy
  -- no request is a refresh
  have hperform : ∀ (request : Request N F) (t : Traced σ N F), SinkCall.refresh ∉ t.calls →
      SinkCall.refresh ∉
        ((Traced.sink sink none (.missingSocket .attributeMath "")).perform request t).2.calls := by
    intro request t ht hmem
    rcases List.mem_append.mp hmem with hmem | hmem
    · exact ht hmem
    · cases List.mem_singleton.mp hmem
  have h₁ := (preserves_call hperform _).after hready (by simp [Traced.start])
  have h₂ := (preserves_foldlM (preserves_emitStep hperform) _).after hemit h₁
  have h₃ := (preserves_nameNodes hperform _ _).after hname h₂
  have h₄ := (preserves_frameIf hperform _ _ _).after hframe h₃
  exact ⟨t₄.calls, hcalls.symm, h₄⟩

/-- **When a compilation is cancelled**: exactly if its formula has a result arrow and no word
before the first of them is an operator, and exactly if an error is reported. Then it has made
nothing, has reported that there is nothing to name and nothing else, and has only asked the sink
whether it is ready. Otherwise it is finished with nothing worse than warnings, there is a frame if
one is wanted and there are nodes, and the last call, and no other, is a refresh. -/
theorem compile_cancelled_iff {scalar vector : List OperatorSpec}
    (hcatalog : Catalog.ofTables scalar vector = .ok catalog) (hvalid : settings.isValid = true)
    (hanswers : sink.answersAll (sink.callsOf catalog settings state) state = true) :
    ∃ out, sink.compile catalog settings state =
        (.ok out, sink.after (sink.callsOf catalog settings state) state) ∧
      (out.status = .cancelled ↔ resultArrow ∈ tokenize settings.formula ∧
        ∀ word ∈ (tokenize settings.formula).takeWhile (· ≠ resultArrow),
          word ∉ catalog.spellings) ∧
      (out.status = .cancelled ↔ ∃ d ∈ out.diagnostics, d.severity = .error) ∧
      (out.status = .cancelled → out.nodes = [] ∧ out.frame = none ∧
        out.diagnostics = [Plan.nothingToName] ∧
        sink.callsOf catalog settings state = [.request .ensureReady] ∧
        ((sink.perform .ensureReady state).2 = state →
          (sink.compile catalog settings state).2 = state)) ∧
      (out.status ≠ .cancelled → out.status = .finished ∧
        (∀ d ∈ out.diagnostics, d.severity = .warning) ∧
        (∃ before, sink.callsOf catalog settings state = before ++ [.refresh] ∧
          .refresh ∉ before) ∧
        (out.frame.isSome = true ↔ settings.addFrame = true ∧ out.nodes ≠ [])) := by
  obtain ⟨out, hcompile⟩ := exists_compile_of_answersAll hvalid hanswers
  have hok := congrArg Prod.fst hcompile
  obtain ⟨hstatus, hreports, hnodes⟩ := compile_nodes hok
  obtain ⟨-, hframe⟩ := build_layout (compile_eq_ok.mp hcompile).2
  rw [← hstatus] at hframe
  have hspellings (word : String) :
      catalog.lookup word .either = none ↔ word ∉ catalog.spellings :=
    (Catalog.wellFormed_ofTables hcatalog).lookup_eq_none_iff
  refine ⟨out, hcompile, ?_, ?_, fun hc => ?_, fun hc => ?_⟩
  · simp only [← hspellings]
    rw [hstatus]
    exact Plan.status_eq_cancelled_iff
  · rw [hstatus, hreports]
    exact Plan.status_eq_cancelled_iff_error
  · have hcalls := callsOf_of_cancelled hok hc
    have hplan := hstatus.symm.trans hc
    have hnone : out.nodes.map EmittedNode.step = [] := hnodes.trans (Plan.steps_of_cancelled hplan)
    refine ⟨List.map_eq_nil_iff.mp hnone, ?_, hreports.trans (Plan.diagnostics_of_cancelled hplan),
      hcalls, fun hready => ?_⟩
    · simpa [hc] using hframe
    · rw [hcompile, hcalls]
      exact hready
  · have hfinished : out.status = .finished := by
      cases h : out.status with
      | finished => rfl
      | cancelled => exact absurd h hc
    refine ⟨hfinished, ?_, callsOf_of_finished hok hc, ?_⟩
    · rw [hreports]
      exact Plan.allWarnings_of_finished (hstatus.symm.trans hfinished)
    · simp [hframe, hfinished]

end Compile

/-- There is a number before the arrow, but no operator; the sine comes too late. -/
theorem compile_cancelled_iff_late :
    ∃ out, Recording.sink.compile .builtin ⟨"4 -> sin", "mf_temp", true⟩ .empty =
        (.ok out, .empty) ∧
      out.status = .cancelled ∧ out.nodes = [] ∧ out.diagnostics = [Plan.nothingToName] := by
  have hvalid : Settings.isValid ⟨"4 -> sin", "mf_temp", true⟩ = true := by decide
  have hanswers : Recording.sink.answersAll (Recording.sink.callsOf .builtin
      ⟨"4 -> sin", "mf_temp", true⟩ .empty) .empty = true := by decide +kernel
  obtain ⟨out, hcompile, hwords, -, hcancelled, -⟩ :=
    compile_cancelled_iff Catalog.ofTables_builtin hvalid hanswers
  have hc : out.status = .cancelled := hwords.mpr (by decide +kernel)
  obtain ⟨hnodes, -, hreports, -, hsame⟩ := hcancelled hc
  refine ⟨out, Prod.ext ?_ (hsame rfl), hc, hnodes, hreports⟩
  rw [hcompile]

end GraphSink

end FormulaChain
