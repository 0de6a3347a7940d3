import FormulaChain.Catalog.Builtin
import FormulaChain.Proofs.Sink.Mirror
import FormulaChain.Sink.Recording
import FormulaChain.Sink.Traced

/-!
# A call that fails

A compilation whose sink fails at one call is compared with the same compilation undisturbed
(`compile_disturbed`). Up to the call that fails the two make the same calls, and the compilation
ends there with the reason of the failure: nothing that the sink was told before is undone, and
nothing more is asked of it. A refresh cannot fail, and a call that is never made disturbs nothing.

The undisturbed run is traced as well. Its calls, made one after the other, lead to all states that
it goes through (`GraphSink.after`), and tracing does not change what it answers
(`compile_traced`).
-/

namespace FormulaChain

variable {σ N F E : Type}

namespace GraphSink

/-- The state of a sink after a call. -/
def effect (sink : GraphSink σ N F E) (state : σ) : SinkCall N F → σ
  | .request request => (sink.perform request state).2
  | .refresh => sink.refresh state

/-- The state of a sink after some calls. -/
def after (sink : GraphSink σ N F E) (calls : List (SinkCall N F)) (state : σ) : σ :=
  calls.foldl sink.effect state

theorem after_concat (sink : GraphSink σ N F E) (calls : List (SinkCall N F))
    (call : SinkCall N F) (state : σ) :
    sink.after (calls ++ [call]) state = sink.effect (sink.after calls state) call := by
  simp [after]

end GraphSink

namespace Traced

open SinkRun

/-- What tracing has come to after some calls from a state. -/
def reached (inner : GraphSink σ N F E) (state : σ) (calls : List (SinkCall N F)) :
    Traced σ N F := ⟨inner.after calls state, calls⟩

/-- One more call is traced. -/
theorem reached_concat (inner : GraphSink σ N F E) (state : σ) (calls : List (SinkCall N F))
    (call : SinkCall N F) : reached inner state (calls ++ [call]) =
      { (reached inner state calls).note call with
        state := inner.effect (inner.after calls state) call } := by
  rw [reached, GraphSink.after_concat]
  rfl

/-- The call with a number is a request, which can fail. -/
def CanFail (calls : List (SinkCall N F)) (number : Nat) : Prop :=
  ∃ request, calls[number]? = some (.request request)

theorem canFail_append {calls more : List (SinkCall N F)} {number : Nat}
    (h : number < calls.length) : CanFail (calls ++ more) number ↔ CanFail calls number := by
  rw [CanFail, CanFail, List.getElem?_append_left h]

theorem CanFail.lt {calls : List (SinkCall N F)} {number : Nat} (h : CanFail calls number) :
    number < calls.length := by
  obtain ⟨request, hget⟩ := h
  exact (List.getElem?_eq_some_iff.mp hget).1

section Disturbed

variable (inner : GraphSink σ N F E) (state : σ) (number : Nat) (reason : SinkError N F E)

/-- What tracing has come to when the call with the number has failed. -/
def stopped (calls : List (SinkCall N F)) : Traced σ N F :=
  ⟨inner.after (calls.take number) state, calls.take (number + 1)⟩

/-- What a disturbed run comes to if the run undisturbed gives a result after `calls`, of which it
has made all but those `before` it. -/
structure Disturbs (before calls : List (SinkCall N F)) {α : Type}
    (result : Except (SinkError N F E) α)
    (outcome : Except (SinkError N F E) α × Traced σ N F) : Prop where
  /-- If the call with the number is one of the run and can fail, the run stops at it. -/
  stops : before.length ≤ number → CanFail calls number →
    outcome = (.error reason, stopped inner state number calls)
  /-- Otherwise nothing is disturbed. -/
  goesOn : ¬ (before.length ≤ number ∧ CanFail calls number) →
    outcome = (result, reached inner state calls)

/-- Whatever calls came before, a run does the same as a run undisturbed, up to the call with the
number. -/
def DisturbedAlike {α β : Type} (f : α → β) (quiet : SinkRun (Traced σ N F) N F E α)
    (disturbed : SinkRun (Traced σ N F) N F E β) : Prop :=
  ∀ before, ∃ later result,
    quiet.outcome (reached inner state before) = (result, reached inner state (before ++ later)) ∧
      Disturbs inner state number reason before (before ++ later) (result.map f)
        (disturbed.outcome (reached inner state before))

variable {inner state number reason}

/-- Once a sequence is disturbed in its first part, the second is not begun. -/
theorem Disturbs.of_stopped {α β : Type} {before calls later : List (SinkCall N F)}
    {result : Except (SinkError N F E) β}
    {run : SinkRun (Traced σ N F) N F E α} {next : α → SinkRun (Traced σ N F) N F E β}
    (hlt : before.length ≤ number) (hfail : CanFail calls number)
    (h : run.outcome (reached inner state before) =
      (.error reason, stopped inner state number calls)) :
    Disturbs inner state number reason before (calls ++ later) result
      ((run >>= next).outcome (reached inner state before)) := by
  have hsame : stopped inner state number (calls ++ later) =
      stopped inner state number calls := by
    have hlength := hfail.lt
    rw [stopped, stopped, List.take_append_of_le_length (by omega),
      List.take_append_of_le_length (by omega)]
  constructor
  · intro _ _
    rw [hsame]
    exact outcome_bind_of_error h
  · intro hno
    exact absurd ⟨hlt, (canFail_append hfail.lt).mpr hfail⟩ hno

theorem disturbedAlike_pure {α β : Type} (f : α → β) (a : α) :
    DisturbedAlike inner state number reason f (pure a) (pure (f a)) := by
  intro before
  refine ⟨[], .ok a, by rw [List.append_nil]; rfl, ?_, ?_⟩
  · intro hle hfail
    have hlt := hfail.lt
    rw [List.append_nil] at hlt
    omega
  · intro _
    rw [List.append_nil]
    rfl

theorem DisturbedAlike.bind {α α' β β' : Type} {f : α → α'} {g : β → β'}
    {quiet : SinkRun (Traced σ N F) N F E α} {disturbed : SinkRun (Traced σ N F) N F E α'}
    {next : α → SinkRun (Traced σ N F) N F E β} {next' : α' → SinkRun (Traced σ N F) N F E β'}
    (h : DisturbedAlike inner state number reason f quiet disturbed)
    (hn : ∀ a, DisturbedAlike inner state number reason g (next a) (next' (f a))) :
    DisturbedAlike inner state number reason g (quiet >>= next) (disturbed >>= next') := by
  intro before
  obtain ⟨later, result, hquiet, hfirst⟩ := h before
  by_cases hhit : before.length ≤ number ∧ CanFail (before ++ later) number
  · -- the first part is disturbed; whatever the undisturbed run does after it
    have hstop := hfirst.stops hhit.1 hhit.2
    cases result with
    | error e =>
      refine ⟨later, .error e, outcome_bind_of_error hquiet, ?_⟩
      have hstopped : Disturbs inner state number reason before (before ++ later ++ [])
          (.error e) ((disturbed >>= next').outcome (reached inner state before)) :=
        .of_stopped hhit.1 hhit.2 hstop
      rwa [List.append_nil] at hstopped
    | ok a =>
      obtain ⟨more, result, hquiet', -⟩ := hn a (before ++ later)
      rw [List.append_assoc] at hquiet'
      refine ⟨later ++ more, result, ?_, ?_⟩
      · rw [outcome_bind, hquiet]
        exact hquiet'
      · rw [← List.append_assoc]
        exact .of_stopped hhit.1 hhit.2 hstop
  · have hgoes := hfirst.goesOn hhit
    cases result with
    | error e =>
      refine ⟨later, .error e, outcome_bind_of_error hquiet, fun hle hfail => ?_, fun _ => ?_⟩
      · exact absurd ⟨hle, hfail⟩ hhit
      · exact outcome_bind_of_error hgoes
    | ok a =>
      obtain ⟨more, result, hquiet', hsecond⟩ := hn a (before ++ later)
      have hbind : (disturbed >>= next').outcome (reached inner state before) =
          (next' (f a)).outcome (reached inner state (before ++ later)) := by
        rw [outcome_bind, hgoes]
        rfl
      rw [List.append_assoc] at hquiet' hsecond
      -- a call of the first part that is not disturbed is none that can fail
      have hlater : before.length ≤ number → CanFail (before ++ (later ++ more)) number →
          (before ++ later).length ≤ number := by
        intro hle hfail
        by_contra hlt
        rw [← List.append_assoc, canFail_append (Nat.lt_of_not_le hlt)] at hfail
        exact hhit ⟨hle, hfail⟩
      refine ⟨later ++ more, result, ?_, fun hle hfail => ?_, fun hno => ?_⟩
      · rw [outcome_bind, hquiet]
        exact hquiet'
      · rw [hbind]
        exact hsecond.stops (hlater hle hfail) hfail
      · rw [hbind]
        refine hsecond.goesOn fun hyes => hno ⟨?_, hyes.2⟩
        have hle := hyes.1
        rw [List.length_append] at hle
        omega

/-- A call is disturbed exactly if it has the number. -/
theorem disturbedAlike_call (request : Request N F) :
    DisturbedAlike inner state number reason id ((sink inner none reason).call request)
      ((sink inner (some number) reason).call request) := by
  intro before
  refine ⟨[.request request], (inner.perform request (inner.after before state)).1, ?_, ?_, ?_⟩
  · rw [reached_concat]
    rfl
  · intro hle hfail
    have hlt := hfail.lt
    rw [List.length_append, List.length_singleton] at hlt
    obtain rfl : number = before.length := by omega
    have hcut : stopped inner state before.length (before ++ [.request request]) =
        (reached inner state before).note (.request request) := by
      rw [stopped, List.take_left, List.take_of_length_le (by simp)]
      rfl
    rw [hcut]
    exact if_pos rfl
  · intro hno
    have hne : some number ≠ some before.length := by
      intro heq
      obtain rfl := Option.some.inj heq
      exact hno ⟨Nat.le_refl _, request, by simp⟩
    rw [reached_concat, Except.map_id]
    exact if_neg hne

theorem disturbedAlike_refresh :
    DisturbedAlike inner state number reason id (sink inner none reason).callRefresh
      (sink inner (some number) reason).callRefresh := by
  intro before
  refine ⟨[.refresh], .ok (), ?_, ?_, ?_⟩
  · rw [reached_concat]
    rfl
  · rintro hle ⟨request, hget⟩
    rw [List.getElem?_append_right hle] at hget
    obtain ⟨hlt, heq⟩ := List.getElem?_eq_some_iff.mp hget
    simp at heq
  · intro _
    rw [reached_concat]
    rfl

/-- Runs on a traced sink are disturbed at one call. -/
theorem mirrors_disturbed (inner : GraphSink σ N F E) (state : σ) (number : Nat)
    (reason : SinkError N F E) :
    Mirrors (sink inner none reason) (sink inner (some number) reason) id id
      (DisturbedAlike inner state number reason) where
  pure := disturbedAlike_pure
  bind := DisturbedAlike.bind
  call request := by cases request <;> exact disturbedAlike_call _
  refresh := disturbedAlike_refresh

end Disturbed

/-! ### Tracing -/

/-- A traced run answers what the run does, and adds to the calls that were traced before. -/
def TracedAlike {α β : Type} (f : α → β) (run : SinkRun σ N F E α)
    (traced : SinkRun (Traced σ N F) N F E β) : Prop :=
  ∀ t, ∃ later, traced.outcome t =
    ((run.outcome t.state).1.map f, ⟨(run.outcome t.state).2, t.calls ++ later⟩)

/-- A sink does the same when it is traced. -/
theorem mirrors_traced (inner : GraphSink σ N F E) (reason : SinkError N F E) :
    Mirrors inner (sink inner none reason) id id TracedAlike where
  pure f a t := ⟨[], by rw [List.append_nil]; rfl⟩
  bind {_ _ _ _ f g run run' next next'} h hn t := by
    obtain ⟨later, hrun⟩ := h t
    rw [outcome_bind, outcome_bind, hrun]
    cases run.outcome t.state with
    | mk result after =>
      cases result with
      | error e => exact ⟨later, rfl⟩
      | ok a =>
        obtain ⟨more, hnext⟩ := hn a ⟨after, t.calls ++ later⟩
        refine ⟨later ++ more, hnext.trans ?_⟩
        rw [List.append_assoc]
  call request t := by
    have hcall : ((sink inner none reason).call request).outcome t =
        (((inner.call request).outcome t.state).1.map id,
          ⟨((inner.call request).outcome t.state).2, t.calls ++ [.request request]⟩) := by
      rw [Except.map_id]
      rfl
    cases request <;> exact ⟨_, hcall⟩
  refresh t := ⟨[.refresh], rfl⟩

end Traced

namespace GraphSink

open Traced

/-- A compilation into a sink that is traced from a state on, and that fails at the call with a
number, if any, for a reason. -/
def compileTraced (sink : GraphSink σ N F E) (failAt : Option Nat) (reason : SinkError N F E)
    (catalog : Catalog) (settings : Settings) (state : σ) :
    Except (CompileError N F E) (CompileOutput N F) × Traced σ N F :=
  (Traced.sink sink failAt reason).compile catalog settings (.start state)

/-- Tracing does not change what a compilation gives and leaves. -/
theorem compile_traced (sink : GraphSink σ N F E) (reason : SinkError N F E) (catalog : Catalog)
    (settings : Settings) (state : σ) :
    ∃ calls, sink.compileTraced none reason catalog settings state =
      ((sink.compile catalog settings state).1,
        ⟨(sink.compile catalog settings state).2, calls⟩) := by
  unfold compileTraced
  by_cases hv : settings.isValid = true
  · obtain ⟨later, htraced⟩ := (mirrors_traced sink reason).build
      (Plan.ofFormula catalog settings.tempName settings.formula) settings.formula
      settings.addFrame (.start state)
    rw [CompileOutput.rename_id, Except.map_id] at htraced
    refine ⟨later, ?_⟩
    rw [compile_of_isValid hv, compile_of_isValid hv, htraced]
    rfl
  · simp only [compile, if_neg hv]
    exact ⟨[], rfl⟩

/-- A compilation into a sink that fails at one call, beside the same compilation undisturbed. -/
theorem compile_disturbs (sink : GraphSink σ N F E) (number : Nat) (reason : SinkError N F E)
    (catalog : Catalog) (settings : Settings) (state : σ) :
    ∃ calls result,
      sink.compileTraced none reason catalog settings state = (result, reached sink state calls) ∧
      (CanFail calls number → sink.compileTraced (some number) reason catalog settings state =
        (.error (.sink reason), stopped sink state number calls)) ∧
      (¬ CanFail calls number → sink.compileTraced (some number) reason catalog settings state =
        (result, reached sink state calls)) := by
  unfold compileTraced
  by_cases hv : settings.isValid = true
  · obtain ⟨calls, result, hquiet, hdisturbs⟩ := (mirrors_disturbed sink state number reason).build
      (Plan.ofFormula catalog settings.tempName settings.formula) settings.formula
      settings.addFrame []
    rw [CompileOutput.rename_id, Except.map_id] at hdisturbs
    rw [List.nil_append] at hquiet hdisturbs
    have hstart : (Traced.start state : Traced σ N F) = reached sink state [] := rfl
    refine ⟨calls, result.mapError .sink, ?_, fun hfail => ?_, fun hno => ?_⟩
    · rw [compile_of_isValid hv, hstart, hquiet]
    · rw [compile_of_isValid hv, hstart, hdisturbs.stops (Nat.zero_le _) hfail]
      rfl
    · rw [compile_of_isValid hv, hstart, hdisturbs.goesOn fun hyes => hno hyes.2]
      rfl
  · simp only [compile, if_neg hv]
    refine ⟨[], _, rfl, fun hfail => ?_, fun _ => rfl⟩
    exact absurd hfail.lt (Nat.not_lt_zero _)

/-- **A call that fails ends a compilation.** For every sink, the calls of the compilation
undisturbed lead to all that it leaves. If the call with a number is a request that is refused, the
compilation gives the reason, has made the calls up to this one and no other, and leaves what the
calls before it lead to. If it is a refresh, or there is no such call, nothing changes. -/
theorem compile_disturbed (sink : GraphSink σ N F E) (number : Nat) (reason : SinkError N F E)
    (catalog : Catalog) (settings : Settings) (state : σ) :
    ∃ calls,
      sink.compileTraced none reason catalog settings state =
        ((sink.compile catalog settings state).1, ⟨sink.after calls state, calls⟩) ∧
      sink.after calls state = (sink.compile catalog settings state).2 ∧
      (∀ request, calls[number]? = some (.request request) →
        sink.compileTraced (some number) reason catalog settings state =
          (.error (.sink reason),
            ⟨sink.after (calls.take number) state, calls.take (number + 1)⟩)) ∧
      ((∀ request, calls[number]? ≠ some (.request request)) →
        sink.compileTraced (some number) reason catalog settings state =
          sink.compileTraced none reason catalog settings state) := by
  obtain ⟨calls, result, hquiet, hstops, hgoesOn⟩ :=
    compile_disturbs sink number reason catalog settings state
  obtain ⟨calls', htraced⟩ := compile_traced sink reason catalog settings state
  obtain ⟨hresult, hreached⟩ := Prod.mk.inj (hquiet.symm.trans htraced)
  have hafter : sink.after calls state = (sink.compile catalog settings state).2 :=
    congrArg Traced.state hreached
  refine ⟨calls, ?_, hafter, fun request hget => hstops ⟨request, hget⟩, fun hno => ?_⟩
  · rw [hquiet, hresult]
    rfl
  · rw [hquiet]
    exact hgoesOn fun ⟨request, hget⟩ => hno request hget

/-- The link between two nodes fails: the first node is complete, the second is there but bare, and
nothing more is asked. -/
theorem compile_disturbed_link :
    (Recording.sink.compileTraced (some 9) (.missingSocket .attributeMath "Geometry") .builtin
        ⟨"1 sin cos", "mf_temp", true⟩ .empty).1 =
      .error (.sink (.missingSocket .attributeMath "Geometry")) ∧
    (Recording.sink.compileTraced (some 9) (.missingSocket .attributeMath "Geometry") .builtin
        ⟨"1 sin cos", "mf_temp", true⟩ .empty).2.calls.getLast? =
      some (.request (.connect 0 .geometry 1 .geometry)) ∧
    (Recording.sink.compileTraced (some 9) (.missingSocket .attributeMath "Geometry") .builtin
        ⟨"1 sin cos", "mf_temp", true⟩ .empty).2.state.counts = [2, 0, 0, 0] := by
  obtain ⟨calls, hquiet, -, hstops, -⟩ := compile_disturbed Recording.sink 9
    (.missingSocket .attributeMath "Geometry") .builtin ⟨"1 sin cos", "mf_temp", true⟩ .empty
  have hcall : calls[9]? = some (.request (.connect 0 .geometry 1 .geometry)) := by
    have hcalls := congrArg (fun o => o.2.calls[9]?) hquiet
    rw [← hcalls]
    decide +kernel
  have hrun := hstops _ hcall
  refine ⟨congrArg Prod.fst hrun, ?_, by decide +kernel⟩
  rw [hrun, List.getLast?_take]
  simp [hcall]

end GraphSink

end FormulaChain
