import FormulaChain.Proofs.Formula.Separation
import FormulaChain.Proofs.Graph.Compile
import FormulaChain.Proofs.Sink.Relabel

/-!
# Formulas with the same words

Two formulas with the same words compile alike into graphs, as they do into recordings: nothing but
the label of the frame tells which of the two was compiled. Together with what is known about the
cutting of formulas this says all that separators, grouping brackets and blanks do to a formula
(`words_exact`).
-/

namespace FormulaChain

namespace Graph

open SinkRun

/-- A graph with the label of a frame changed. -/
def relabel (frame : FrameId) (label : String) (g : Graph) : Graph :=
  { g with frames := g.frames.modify frame fun f => { f with label := label } }

theorem contains_frames_relabel (g : Graph) (frame other : FrameId) (label : String) :
    (relabel frame label g).frames.contains other = g.frames.contains other := by
  rw [Bool.eq_iff_iff, Table.contains_iff, Table.contains_iff]
  show other ∈ (g.frames.modify frame _).keys ↔ _
  rw [Table.keys_modify]

variable [IdentitySupply]

/-- A new frame with its label changed is a new frame with the other label. -/
theorem relabel_addFrame (g : Graph) (label label' : String) :
    relabel ⟨g.nextNumbers.first⟩ label' (g.addFrame (g.newFrame label)) =
      g.addFrame (g.newFrame label') := by
  have hframes : ((g.addFrame (g.newFrame label)).frames.modify ⟨g.nextNumbers.first⟩
      fun f => { f with label := label' }) = (g.addFrame (g.newFrame label')).frames := by
    apply Table.eq_of_entries
    rw [Table.entries_modify, frames_addFrame_newFrame, frames_addFrame_newFrame, List.map_append,
      Table.map_modifyEntry_of_notMem next_notMem_frames]
    simp [Table.modifyEntry]
  exact congrArg (fun frames => { g with frames := frames }) hframes

theorem relabels : GraphSink.Relabels sink relabel where
  create := by
    intro label label' g g' frame hy
    cases hy
    exact congrArg (Prod.mk (Except.ok _)) (relabel_addFrame g label label').symm
  assign := by
    intro frame label node g g' hy
    have hset : ∀ {g g' : Graph}, Yields (sink.call (.assignToFrame node frame)) g () g' ↔
        g.setParent node frame = .ok g' := by
      intro g g'
      unfold Yields outcome GraphSink.call
      simp only [sink, answer]
      split <;> simp [*]
    rw [hset, setParent_eq_ok] at hy ⊢
    obtain ⟨hframe, hnode, rfl⟩ := hy
    refine ⟨?_, hnode, rfl⟩
    rw [← Table.contains_iff, contains_frames_relabel, Table.contains_iff]
    exact hframe
  refresh := fun _ _ _ => rfl

theorem refusesAtOnce : GraphSink.RefusesAtOnce sink := by
  intro plan label addFrame g
  by_cases hk : g.kind = .geometry
  · obtain ⟨out, g', hy, -⟩ := runs_build hk plan label addFrame g rfl
    exact .inr ⟨out, g', hy⟩
  · exact .inl ⟨_, Prod.ext (if_neg hk) rfl⟩

end Graph

/-- **What separators do to a formula**, for every text.

The words of a formula are what is left, without blank pieces, when brackets are turned into spaces
and the formula is split at every space. Two formulas with a separator between have the words of
both. Words without separators that are not blank are read back, whatever gaps of separators they
are written with, as long as no two of them stand without a gap.

Two formulas with the same words compile alike under the same stem and frame setting: into every
sink as one formula does when new frames get the other as their label, and so into recordings and
graphs with equal outputs and with equal states but for the label of the frame. -/
theorem words_exact [IdentitySupply] :
    (∀ formula, tokenize formula = tokenizeBySpaces formula ∧ tokenizeBySpaces formula =
      (((formula.toList.map fun c => if c ∈ groupingMarkers then ' ' else c).splitOn ' ').filter
        isWord).map String.ofList) ∧
    (∀ c, isSeparator c = true → ∀ formula formula',
      tokenize (formula ++ String.singleton c ++ formula') =
        tokenize formula ++ tokenize formula') ∧
    (∀ gapped closing, (∀ entry ∈ gapped, IsGap entry.1) → (∀ entry ∈ gapped, IsToken entry.2) →
      (∀ entry ∈ gapped.tail, entry.1 ≠ "") → IsGap closing →
      tokenize (spread gapped closing) = gapped.map (·.2)) ∧
    ∀ formula formula', tokenize formula' = tokenize formula →
      (∀ (σ N F E : Type) (sink : GraphSink σ N F E) catalog stem addFrame s,
        sink.compile catalog ⟨formula', stem, addFrame⟩ s =
          (sink.relabelled formula').compile catalog ⟨formula, stem, addFrame⟩ s) ∧
      GraphSink.CompilesAlike Recording.sink Recording.relabel formula formula' ∧
      GraphSink.CompilesAlike Graph.sink Graph.relabel formula formula' := by
  refine ⟨fun formula => ⟨tokenize_eq_tokenizeBySpaces formula, tokenizeBySpaces_eq formula⟩,
    fun c hc => tokenize_append_separator hc, fun gapped closing => tokenize_spread, ?_⟩
  intro formula formula' hwords
  exact ⟨fun _ _ _ _ sink => GraphSink.compile_relabelled hwords,
    GraphSink.compilesAlike Recording.relabels Recording.refusesAtOnce hwords,
    GraphSink.compilesAlike Graph.relabels Graph.refusesAtOnce hwords⟩

/-- Brackets around a sum and a product group them for the eye: the graph is that of the formula
with spaces alone, with the brackets in the label of its frame. -/
theorem words_exact_grouped :
    tokenize "[4 5 +]\x7b2 *\x7d" = ["4", "5", "+", "2", "*"] ∧
    ∀ g, Graph.sink.compile .builtin ⟨"[4 5 +]\x7b2 *\x7d", "mf_temp", true⟩ g =
      GraphSink.relabelResult Graph.relabel "[4 5 +]\x7b2 *\x7d"
        (Graph.sink.compile .builtin ⟨"4 5 + 2 *", "mf_temp", true⟩ g) := by
  have hgrouped : tokenize "[4 5 +]\x7b2 *\x7d" = ["4", "5", "+", "2", "*"] :=
    words_exact.2.2.1 [("[", "4"), (" ", "5"), (" ", "+"), ("]\x7b", "2"), (" ", "*")] "\x7d"
      (by decide) (by decide) (by decide) (by decide)
  have hplain : tokenize "4 5 + 2 *" = ["4", "5", "+", "2", "*"] :=
    words_exact.2.2.1 [("", "4"), (" ", "5"), (" ", "+"), (" ", "2"), (" ", "*")] ""
      (by decide) (by decide) (by decide) (by decide)
  refine ⟨hgrouped, fun g => ?_⟩
  exact (words_exact.2.2.2 _ _ (hgrouped.trans hplain.symm)).2.2 .builtin "mf_temp" true g

end FormulaChain
