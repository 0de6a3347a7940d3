import FormulaChain.Proofs.Sink.Layout

/-!
# Frames under another label

A build looks at the formula itself only where it labels the frame: everything else is in the plan,
which the words of the formula determine. So formulas with the same words make the same requests of
every sink, but for the label of the frame (`compile_relabelled`). Where the label of a frame can be
changed later as though the frame had been made with it (`Relabels`), they give the same output and
leave the same state, but for that label (`compilesAlike`); so it is in recordings.
-/

namespace FormulaChain

variable {σ N F E : Type}

namespace GraphSink

open SinkRun

variable {sink : GraphSink σ N F E} {formula formula' : String}

/-! ### Any sink -/

/-- The sink in which every new frame gets a given label. -/
def relabelled (sink : GraphSink σ N F E) (label : String) : GraphSink σ N F E where
  perform
    | .createFrame _ => sink.perform (.createFrame label)
    | request => sink.perform request
  refresh := sink.refresh

theorem build_relabelled (plan : Plan) (label label' : String) (addFrame : Bool) :
    (sink.relabelled label').build plan label addFrame = sink.build plan label' addFrame :=
  rfl

theorem ofFormula_congr (hwords : tokenize formula' = tokenize formula) (catalog : Catalog)
    (stem : String) : Plan.ofFormula catalog stem formula' = Plan.ofFormula catalog stem formula :=
  congrArg (Plan.ofWords catalog stem) hwords

/-- **Formulas with the same words make the same requests of a sink**, but for the label of the
frame. -/
theorem compile_relabelled (hwords : tokenize formula' = tokenize formula) (catalog : Catalog)
    (stem : String) (addFrame : Bool) (s : σ) :
    sink.compile catalog ⟨formula', stem, addFrame⟩ s =
      (sink.relabelled formula').compile catalog ⟨formula, stem, addFrame⟩ s := by
  unfold compile
  simp only [ofFormula_congr hwords, build_relabelled]
  rfl

/-! ### Sinks that can change a label -/

/-- A way to change the label of a frame in a state, as though the frame had been made with it. -/
structure Relabels (sink : GraphSink σ N F E) (relabel : F → String → σ → σ) : Prop where
  /-- A frame that is made with another label is the frame with its label changed. -/
  create : ∀ {label : String} (label' : String) {s s' : σ} {frame : F},
    Yields (sink.call (.createFrame label)) s frame s' →
      Yields (sink.call (.createFrame label')) s frame (relabel frame label' s')
  /-- The label does not matter to a node that is put into the frame. -/
  assign : ∀ {frame : F} {label : String} {node : N} {s s' : σ},
    Yields (sink.call (.assignToFrame node frame)) s () s' →
      Yields (sink.call (.assignToFrame node frame)) (relabel frame label s) ()
        (relabel frame label s')
  /-- Nor does it to a refresh. -/
  refresh : ∀ (frame : F) (label : String) (s : σ),
    sink.refresh (relabel frame label s) = relabel frame label (sink.refresh s)

/-- A state with the label of a frame changed, if there is a frame. -/
def relabelIf (relabel : F → String → σ → σ) (frame : Option F) (label : String) (s : σ) : σ :=
  frame.elim s fun frame => relabel frame label s

namespace Relabels

variable {relabel : F → String → σ → σ} (h : Relabels sink relabel)

include h

theorem assignAll {frame : F} {label : String} {emitted : List (EmittedNode N)} {s s' : σ}
    (hy : Yields (emitted.forM fun node => sink.call (.assignToFrame node.handle frame)) s () s') :
    Yields (emitted.forM fun node => sink.call (.assignToFrame node.handle frame))
      (relabel frame label s) () (relabel frame label s') := by
  induction emitted generalizing s with
  | nil =>
    obtain ⟨-, rfl⟩ := yields_pure.mp hy
    exact yields_pure.mpr ⟨rfl, rfl⟩
  | cons node emitted ih =>
    obtain ⟨_, s₁, hnode, hrest⟩ := yields_bind.mp hy
    exact (h.assign hnode).bind (ih hrest)

theorem frameIf {addFrame : Bool} {emitted : List (EmittedNode N)} {label : String}
    (label' : String) {frame : Option F} {s s' : σ}
    (hy : Yields (sink.frameIf addFrame emitted label) s frame s') :
    Yields (sink.frameIf addFrame emitted label') s frame (relabelIf relabel frame label' s') := by
  unfold GraphSink.frameIf frameNodes at hy ⊢
  cases addFrame with
  | false =>
    obtain ⟨rfl, rfl⟩ := yields_pure.mp hy
    exact yields_pure.mpr ⟨rfl, rfl⟩
  | true =>
    cases hempty : emitted.isEmpty with
    | true =>
      rw [hempty] at hy
      obtain ⟨rfl, rfl⟩ := yields_pure.mp hy
      exact yields_pure.mpr ⟨rfl, rfl⟩
    | false =>
      rw [hempty] at hy
      obtain ⟨made, s₁, hcreate, hy⟩ := yields_bind.mp hy
      obtain ⟨_, s₂, hassign, hy⟩ := yields_bind.mp hy
      obtain ⟨rfl, rfl⟩ := yields_pure.mp hy
      exact (h.create label' hcreate).bind
        ((h.assignAll hassign).bind (yields_pure.mpr ⟨rfl, rfl⟩))

theorem callRefresh {frame : Option F} {label : String} {s s' : σ}
    (hy : Yields sink.callRefresh s () s') :
    Yields sink.callRefresh (relabelIf relabel frame label s) ()
      (relabelIf relabel frame label s') := by
  have hs' : s' = sink.refresh s := (congrArg Prod.snd hy).symm
  subst hs'
  cases frame with
  | none => rfl
  | some frame => exact congrArg (Prod.mk (Except.ok ())) (h.refresh frame label s)

/-- A build under another label gives the same output; only the label of its frame differs. -/
theorem build {plan : Plan} {label : String} (label' : String) {addFrame : Bool} {s s' : σ}
    {out : CompileOutput N F} (hy : Yields (sink.build plan label addFrame) s out s') :
    Yields (sink.build plan label' addFrame) s out (relabelIf relabel out.frame label' s') := by
  rw [build_eq] at hy ⊢
  obtain ⟨_, s₁, hready, hy⟩ := yields_bind.mp hy
  refine hready.bind ?_
  by_cases hc : plan.status = .cancelled
  · rw [if_pos hc] at hy ⊢
    obtain ⟨rfl, rfl⟩ := yields_pure.mp hy
    exact yields_pure.mpr ⟨rfl, rfl⟩
  · rw [if_neg hc] at hy ⊢
    obtain ⟨emitted, _, hemit, hy⟩ := yields_bind.mp hy
    obtain ⟨named, _, hname, hy⟩ := yields_bind.mp hy
    obtain ⟨frame, _, hframe, hy⟩ := yields_bind.mp hy
    obtain ⟨_, _, hrefresh, hy⟩ := yields_bind.mp hy
    obtain ⟨rfl, rfl⟩ := yields_pure.mp hy
    exact hemit.bind (hname.bind ((h.frameIf label' hframe).bind
      ((h.callRefresh hrefresh).bind (yields_pure.mpr ⟨rfl, rfl⟩))))

end Relabels

/-- What a compilation gives, with the label of its frame changed, if it made one. -/
def relabelResult (relabel : F → String → σ → σ) (label : String) :
    Except (CompileError N F E) (CompileOutput N F) × σ →
      Except (CompileError N F E) (CompileOutput N F) × σ
  | (.ok out, s) => (.ok out, relabelIf relabel out.frame label s)
  | (.error e, s) => (.error e, s)

/-- Two formulas compile to the same output, or fail alike, and leave the same state, but for the
label of the frame. -/
def CompilesAlike (sink : GraphSink σ N F E) (relabel : F → String → σ → σ)
    (formula formula' : String) : Prop :=
  ∀ catalog stem addFrame s, sink.compile catalog ⟨formula', stem, addFrame⟩ s =
    relabelResult relabel formula' (sink.compile catalog ⟨formula, stem, addFrame⟩ s)

/-- A build is refused at once or not at all. -/
def RefusesAtOnce (sink : GraphSink σ N F E) : Prop :=
  ∀ plan label addFrame s, (∃ e, sink.perform .ensureReady s = (.error e, s)) ∨
    ∃ out s', Yields (sink.build plan label addFrame) s out s'

/-- **Formulas with the same words compile alike.** -/
theorem compilesAlike {relabel : F → String → σ → σ} (h : Relabels sink relabel)
    (hrefuses : RefusesAtOnce sink) (hwords : tokenize formula' = tokenize formula) :
    CompilesAlike sink relabel formula formula' := by
  intro catalog stem addFrame s
  by_cases hv : Settings.validStem stem = true
  · have hvalid (f : String) : Settings.isValid ⟨f, stem, addFrame⟩ = true := hv
    rcases hrefuses (Plan.ofFormula catalog stem formula) formula addFrame s with
      ⟨e, hnotReady⟩ | ⟨out, s', hbuild⟩
    · rw [compile_of_notReady (hvalid _) hnotReady, compile_of_notReady (hvalid _) hnotReady]
      rfl
    · have hbuild' := h.build formula' hbuild
      rw [← ofFormula_congr hwords] at hbuild'
      rw [compile_eq_ok.mpr ⟨hvalid formula, hbuild⟩, compile_eq_ok.mpr ⟨hvalid formula', hbuild'⟩]
      rfl
  · have hinvalid (f : String) : sink.compile catalog ⟨f, stem, addFrame⟩ s =
        (.error (.invalidStem stem), s) := if_neg hv
    rw [hinvalid, hinvalid]
    rfl

end GraphSink

/-! ### Recordings -/

namespace Recording

/-- A recording with the label of a frame changed. -/
def relabel (frame : Nat) (label : String) (r : Recording) : Recording :=
  { r with frames := r.frames.set frame label }

theorem relabels : GraphSink.Relabels sink relabel where
  create := by
    intro label label' r r' frame hy
    cases hy
    have hset : (r.frames ++ [label]).set r.frames.length label' = r.frames ++ [label'] := by simp
    exact congrArg (fun frames => (Except.ok r.frames.length, { r with frames := frames }))
      hset.symm
  assign := by
    intro frame label node r r' hy
    unfold SinkRun.Yields SinkRun.outcome GraphSink.call at hy ⊢
    simp only [sink, answer, assign, change] at hy ⊢
    have hlength : (relabel frame label r).frames.length = r.frames.length := List.length_set
    rw [hlength]
    split at hy
    · cases hy
    · next hframe =>
      rw [if_neg hframe]
      split at hy
      · next hnode =>
        cases hy
        exact if_pos hnode
      · cases hy
  refresh := fun _ _ _ => rfl

theorem refusesAtOnce : GraphSink.RefusesAtOnce sink := by
  intro plan label addFrame r
  obtain ⟨out, r', hy, -⟩ := runs_build plan label addFrame r trivial
  exact .inr ⟨out, r', hy⟩

end Recording

end FormulaChain
