import FormulaChain.Catalog.Builtin
import FormulaChain.Proofs.Sink.Layout
import FormulaChain.Proofs.Storage.Storable
import FormulaChain.Storage.Compilation

/-!
# Outputs of compilations are read back

Every part of an output is kept by storage, handles and places as long as they are whole numbers of
64 bits (`kept_output`). The numbers in its document are the literals among operands and bindings
and the positions of nodes (`floats_output`), so that the output of a compilation into a recording
sink is read back from its document exactly if these are finite, in any notation with the laws of
JSON (`Recording.compile_textIn`) and so in JSON (`Recording.compile_jsonText`).
-/

namespace FormulaChain

/-! ### The numbers in an output -/

/-- The numbers in an operand. -/
def Operand.floats : Operand → List Single
  | .scalar s => [s]
  | .vector t => t.toList
  | .reference _ => []

/-- The numbers in a socket value. -/
def SocketValue.floats : SocketValue → List Single
  | .float s => [s]
  | .vector t => t.toList
  | .text _ => []

/-- The numbers in an emitted node: those of its operands and bindings, and its position. -/
def EmittedNode.floats {N : Type} (n : EmittedNode N) : List Single :=
  n.args.flatMap (·.floats) ++ n.bindings.flatMap (·.value.floats) ++ [n.position.1, n.position.2]

/-- The numbers in an output. -/
def CompileOutput.floats {N F : Type} (out : CompileOutput N F) : List Single :=
  out.nodes.flatMap (·.floats)

namespace Storable

open Shape Json.Number

/-! ### Names -/

theorem kept_scalarOperation (o : ScalarOperation) : Kept o :=
  kept_ofNames (by decide +kernel) (fun o => by cases o <;> decide) o

theorem kept_vectorOperation (o : VectorOperation) : Kept o :=
  kept_ofNames (by decide +kernel) (fun o => by cases o <;> decide) o

theorem kept_slot (slot : Slot) : Kept slot :=
  kept_ofNames (by decide) (fun slot => by cases slot <;> decide) slot

theorem kept_inputKind (kind : InputKind) : Kept kind :=
  kept_ofNames (by decide) (fun kind => by cases kind <;> decide) kind

theorem kept_severity (severity : Severity) : Kept severity :=
  kept_ofNames (by decide) (fun severity => by cases severity <;> decide) severity

theorem kept_diagnosticKind (kind : DiagnosticKind) : Kept kind :=
  kept_ofNames (by decide) (fun kind => by cases kind <;> decide) kind

theorem kept_status (status : BuildStatus) : Kept status :=
  kept_ofNames (by decide) (fun status => by cases status <;> decide) status

/-! ### Choices -/

theorem kept_operation (o : Operation) : Kept o := by
  cases o with
  | scalar o =>
    exact ⟨fitsVariant_head (kept_scalarOperation o).fits,
      congrArg (Option.map Operation.scalar) (kept_scalarOperation o).restored⟩
  | vector o =>
    exact ⟨fitsVariant_tail (by decide) (fitsVariant_head (kept_vectorOperation o).fits),
      congrArg (Option.map Operation.vector) (kept_vectorOperation o).restored⟩

theorem kept_operand (o : Operand) : Kept o := by
  cases o with
  | scalar s => exact ⟨fitsVariant_head (kept_single s).fits, rfl⟩
  | vector t => exact ⟨fitsVariant_tail (by decide) (fitsVariant_head (kept_triple t).fits), rfl⟩
  | reference name =>
    exact ⟨fitsVariant_tail (by decide) (fitsVariant_tail (by decide)
      (fitsVariant_head (kept_string name).fits)), rfl⟩

theorem kept_socketValue (v : SocketValue) : Kept v := by
  cases v with
  | float s => exact ⟨fitsVariant_head (kept_single s).fits, rfl⟩
  | vector t => exact ⟨fitsVariant_tail (by decide) (fitsVariant_head (kept_triple t).fits), rfl⟩
  | text s =>
    exact ⟨fitsVariant_tail (by decide) (fitsVariant_tail (by decide)
      (fitsVariant_head (kept_string s).fits)), rfl⟩

theorem kept_socket (s : Socket) : Kept s := by
  cases s with
  | geometry => exact ⟨fitsName_head, rfl⟩
  | named slot =>
    exact ⟨fitsVariant_tail (by decide) (fitsVariant_head (kept_slot slot).fits),
      congrArg (Option.map Socket.named) (kept_slot slot).restored⟩
  | float slot =>
    exact ⟨fitsVariant_tail (by decide) (fitsVariant_tail (by decide)
      (fitsVariant_head (kept_slot slot).fits)),
      congrArg (Option.map Socket.float) (kept_slot slot).restored⟩
  | vector slot =>
    exact ⟨fitsVariant_tail (by decide) (fitsVariant_tail (by decide)
      (fitsVariant_tail (by decide) (fitsVariant_head (kept_slot slot).fits))),
      congrArg (Option.map Socket.vector) (kept_slot slot).restored⟩
  | result =>
    exact ⟨fitsName_tail (by decide) (fitsName_tail (by decide) (fitsName_tail (by decide)
      (fitsName_tail (by decide) fitsName_head))), rfl⟩

/-! ### Records -/

theorem kept_diagnostic (d : Diagnostic) : Kept d where
  fits := ⟨by simp, fitsFields_cons (kept_severity d.severity).fits
    (fitsFields_cons (kept_diagnosticKind d.kind).fits
      (fitsFields_cons (kept_string d.message).fits rfl))⟩
  restored := by
    show (do return (⟨← restore? (store d.severity), ← restore? (store d.kind),
      ← restore? (store d.message)⟩ : Diagnostic)) = some d
    rw [(kept_severity d.severity).restored, (kept_diagnosticKind d.kind).restored,
      (kept_string d.message).restored]
    rfl

theorem kept_binding (b : Binding) : Kept b where
  fits := ⟨by simp, fitsFields_cons (kept_slot b.slot).fits
    (fitsFields_cons (kept_inputKind b.kind).fits
      (fitsFields_cons (kept_socket b.socket).fits
        (fitsFields_cons (kept_socketValue b.value).fits rfl)))⟩
  restored := by
    show (do return (⟨← restore? (store b.slot), ← restore? (store b.kind),
      ← restore? (store b.socket), ← restore? (store b.value)⟩ : Binding)) = some b
    rw [(kept_slot b.slot).restored, (kept_inputKind b.kind).restored,
      (kept_socket b.socket).restored, (kept_socketValue b.value).restored]
    rfl

theorem kept_emittedNode {n : EmittedNode Nat} (hhandle : n.handle < wordBound)
    (hindex : n.sequenceIndex < wordBound) : Kept n := by
  have hargs : Kept n.args := .list fun o _ => kept_operand o
  have hbindings : Kept n.bindings := .list fun b _ => kept_binding b
  have hposition : Kept n.position := .pair (kept_single n.position.1) (kept_single n.position.2)
  constructor
  · exact ⟨by simp, fitsFields_cons (kept_nat hhandle).fits
      (fitsFields_cons (kept_operation n.operation).fits
        (fitsFields_cons hargs.fits (fitsFields_cons hbindings.fits
          (fitsFields_cons (kept_string n.resultName).fits
            (fitsFields_cons (kept_nat hindex).fits (fitsFields_cons hposition.fits rfl))))))⟩
  · show (do return (⟨← restore? (store n.handle), ← restore? (store n.operation),
      ← restore? (store n.args), ← restore? (store n.bindings), ← restore? (store n.resultName),
      ← restore? (store n.sequenceIndex), ← restore? (store n.position)⟩ : EmittedNode Nat)) =
        some n
    rw [(kept_nat hhandle).restored, (kept_operation n.operation).restored, hargs.restored,
      hbindings.restored, (kept_string n.resultName).restored, (kept_nat hindex).restored,
      hposition.restored]
    rfl

/-- **An output is kept** if its handles and places are whole numbers of 64 bits. -/
theorem kept_output {out : CompileOutput Nat Nat}
    (hnodes : ∀ n ∈ out.nodes, n.handle < wordBound ∧ n.sequenceIndex < wordBound)
    (hframe : ∀ frame ∈ out.frame, frame < wordBound) : Kept out := by
  have hnodes' : Kept out.nodes :=
    .list fun n hn => kept_emittedNode (hnodes n hn).1 (hnodes n hn).2
  have hdiagnostics : Kept out.diagnostics := .list fun d _ => kept_diagnostic d
  have hframe' : Kept out.frame := .option rfl fun frame hf => kept_nat (hframe frame hf)
  constructor
  · exact ⟨by simp, fitsFields_cons (kept_status out.status).fits
      (fitsFields_cons hnodes'.fits (fitsFields_cons hdiagnostics.fits
        (fitsFields_cons hframe'.fits rfl)))⟩
  · show (do return (⟨← restore? (store out.status), ← restore? (store out.nodes),
      ← restore? (store out.diagnostics), ← restore? (store out.frame)⟩ :
        CompileOutput Nat Nat)) = some out
    rw [(kept_status out.status).restored, hnodes'.restored, hdiagnostics.restored,
      hframe'.restored]
    rfl

/-! ### The numbers of a document -/

theorem floats_operation (o : Operation) : floats o = [] := by
  cases o <;> rfl

theorem floats_operand (o : Operand) : floats o = o.floats := by
  cases o <;> rfl

theorem floats_binding (b : Binding) : floats b = b.value.floats := by
  obtain ⟨slot, kind, socket, value⟩ := b
  cases socket <;> cases value <;> rfl

theorem floats_emittedNode (n : EmittedNode Nat) : floats n = n.floats := by
  have hsplit : floats n = floats n.operation ++ (floats n.args ++
      (floats n.bindings ++ ([n.position.1, n.position.2] ++ []))) := rfl
  have hoperands : (floats : Operand → List Single) = (·.floats) := funext floats_operand
  have hbindings : (floats : Binding → List Single) = (·.value.floats) := funext floats_binding
  rw [hsplit, floats_operation, floats_list, floats_list, hoperands, hbindings, List.nil_append,
    List.append_nil, ← List.append_assoc]
  rfl

/-- **The numbers in the document of an output** are literals and positions. -/
theorem floats_output (out : CompileOutput Nat Nat) : floats out = out.floats := by
  have hsplit : floats out = floats out.nodes ++ (floats out.diagnostics ++
      (floats out.frame ++ [])) := rfl
  have hnodes : (floats : EmittedNode Nat → List Single) = (·.floats) := funext floats_emittedNode
  have hdiagnostics : floats out.diagnostics = [] := by
    rw [floats_list, List.flatMap_eq_nil_iff]
    exact fun _ _ => rfl
  have hframe : floats out.frame = [] := by
    cases out.frame <;> rfl
  rw [hsplit, floats_list, hnodes, hdiagnostics, hframe, List.append_nil, List.append_nil,
    List.append_nil]
  rfl

end Storable

/-! ### Compilations -/

namespace Recording

open Storable Json.Number

variable {catalog : Catalog} {settings : Settings}

/-- Nodes are numbered from what was recorded before. -/
theorem mem_placedIn {r : Recording} {steps : List Step} {n : EmittedNode Nat}
    (h : n ∈ r.placedIn steps) :
    n.handle < r.nodes.length + steps.length ∧ n.sequenceIndex < steps.length := by
  obtain ⟨i, hi, rfl⟩ := List.mem_iff_getElem.mp h
  rw [length_placedIn] at hi
  simp only [placedIn, placedAll, List.getElem_map, List.getElem_mapIdx, placed,
    EmittedNode.rename]
  omega

/-- An output is kept if a word counts the nodes and the frame it tells of. -/
theorem kept_output_of_le {r : Recording} {plan : Plan} {addFrame : Bool}
    (hnodes : r.nodes.length + plan.steps.length ≤ wordBound)
    (hframe : ∀ frame ∈ r.frameOf plan addFrame, frame < wordBound) :
    Kept (r.output plan addFrame) := by
  refine kept_output (fun n hn => ?_) hframe
  obtain ⟨hhandle, hindex⟩ := mem_placedIn hn
  rw [Plan.length_finalSteps] at hhandle hindex
  omega

/-- So it is if a word counts all that is recorded afterwards. -/
theorem kept_compile (hvalid : settings.isValid = true) (r : Recording)
    (hnodes : (sink.compile catalog settings r).2.nodes.length ≤ wordBound)
    (hframes : (sink.compile catalog settings r).2.frames.length ≤ wordBound) :
    Kept (r.output (Plan.ofFormula catalog settings.tempName settings.formula)
      settings.addFrame) := by
  rw [compile_eq hvalid] at hnodes hframes
  by_cases hc : (Plan.ofFormula catalog settings.tempName settings.formula).status = .cancelled
  · have hsteps : (Plan.ofFormula catalog settings.tempName settings.formula).steps = [] :=
      Plan.steps_eq_nil_of_cancelled hc
    rw [if_pos hc] at hnodes
    refine kept_output_of_le (by rw [hsteps]; exact hnodes) fun frame hframe => ?_
    simp [frameOf, hsteps] at hframe
  · rw [if_neg hc] at hnodes hframes
    simp only [built, List.length_append, length_recorded] at hnodes hframes
    refine kept_output_of_le hnodes fun frame hframe => ?_
    have hsome := Option.mem_def.mp hframe
    obtain ⟨-, hnumber⟩ := Option.ite_none_right_eq_some.mp hsome
    rw [hsome, Option.map_some, Option.toList_some, List.length_singleton] at hframes
    rw [← Option.some.inj hnumber]
    exact hframes

/-- In any notation with the laws of JSON, an output is read back exactly if its numbers are
finite, and refused if not. -/
theorem compile_textIn {codec : Codec} (hjson : codec.JsonLaws) (hvalid : settings.isValid = true)
    (r : Recording) (hnodes : (sink.compile catalog settings r).2.nodes.length ≤ wordBound)
    (hframes : (sink.compile catalog settings r).2.frames.length ≤ wordBound) :
    ∃ out, (sink.compile catalog settings r).1 = .ok out ∧ ∀ indented,
      (ofTextIn? codec (textIn codec indented out) = some out ↔
        ∀ s ∈ out.floats, s.isFinite = true) ∧
      ((∃ s ∈ out.floats, s.isFinite = false) →
        (ofTextIn? codec (textIn codec indented out) : Option (CompileOutput Nat Nat)) = none) := by
  have hkept := kept_compile hvalid r hnodes hframes
  refine ⟨_, congrArg Prod.fst (compile_eq hvalid r), fun indented => ?_⟩
  generalize r.output (Plan.ofFormula catalog settings.tempName settings.formula)
    settings.addFrame = out at hkept
  rw [hkept.ofTextIn?_textIn hjson indented, floats_output]
  by_cases hall : out.floats.all Single.isFinite = true
  · rw [if_pos hall]
    rw [List.all_eq_true] at hall
    refine ⟨iff_of_true rfl hall, fun ⟨s, hs, hinfinite⟩ => ?_⟩
    rw [hall s hs] at hinfinite
    cases hinfinite
  · rw [if_neg hall]
    rw [List.all_eq_true] at hall
    exact ⟨iff_of_false (Option.some_ne_none out).symm hall, fun _ => rfl⟩

/-- **An output is read back from its document exactly if its numbers are finite.** With valid
settings, a compilation into a recording sink gives an output. As long as a word counts the nodes
and the frames of the sink, it is read from its document, on one line or indented, if all numbers
among its operands, bindings and positions are finite, and otherwise the document is refused. -/
theorem compile_jsonText (hvalid : settings.isValid = true) (catalog : Catalog) (r : Recording)
    (hnodes : (sink.compile catalog settings r).2.nodes.length ≤ wordBound)
    (hframes : (sink.compile catalog settings r).2.frames.length ≤ wordBound) :
    ∃ out, (sink.compile catalog settings r).1 = .ok out ∧
      ∀ text ∈ [jsonText out, prettyJsonText out],
        (ofJsonText? text = some out ↔ ∀ s ∈ out.floats, s.isFinite = true) ∧
        ((∃ s ∈ out.floats, s.isFinite = false) →
          (ofJsonText? text : Option (CompileOutput Nat Nat)) = none) := by
  obtain ⟨out, hout, hread⟩ := compile_textIn Json.laws hvalid r hnodes hframes
  refine ⟨out, hout, fun text htext => ?_⟩
  rcases List.mem_pair.mp htext with rfl | rfl
  · exact hread false
  · exact hread true

/-- Quotes, line feeds and other marks in names do no harm, but an infinite literal does. -/
theorem compile_jsonText_named :
    (∃ out, (sink.compile .builtin ⟨"a\"\n\\é -0.1 +", "mf_temp", true⟩ .empty).1 = .ok out ∧
        out.nodes.map (·.args) = [[.reference "a\"\n\\é", .scalar (.ofRatio true 1 10)]] ∧
        ofJsonText? (jsonText out) = some out) ∧
      ∃ out, (sink.compile .builtin ⟨"x 1e39 *", "mf_temp", true⟩ .empty).1 = .ok out ∧
        (ofJsonText? (jsonText out) : Option (CompileOutput Nat Nat)) = none := by
  have hplans :
      Plan.ofFormula .builtin "mf_temp" "a\"\n\\é -0.1 +" =
        ⟨[⟨.scalar .add, [.reference "a\"\n\\é", .scalar (.ofRatio true 1 10)], "mf_temp"⟩], [],
          .finished, none⟩ ∧
      Plan.ofFormula .builtin "mf_temp" "x 1e39 *" =
        ⟨[⟨.scalar .multiply, [.reference "x", .scalar (.infinite false)], "mf_temp"⟩], [],
          .finished, none⟩ := by
    decide +kernel
  constructor
  · have hvalid : Settings.isValid ⟨"a\"\n\\é -0.1 +", "mf_temp", true⟩ = true := by decide
    have hcompile : sink.compile .builtin _ .empty = _ := compile_eq hvalid .empty
    simp only [hplans.1] at hcompile
    obtain ⟨out, hout, hread⟩ := compile_jsonText hvalid .builtin .empty
      (by rw [hcompile]; decide) (by rw [hcompile]; decide)
    rw [hcompile] at hout
    cases hout
    exact ⟨_, congrArg Prod.fst hcompile, rfl,
      (hread _ List.mem_cons_self).1.mpr (by decide +kernel)⟩
  · have hvalid : Settings.isValid ⟨"x 1e39 *", "mf_temp", true⟩ = true := by decide
    have hcompile : sink.compile .builtin _ .empty = _ := compile_eq hvalid .empty
    simp only [hplans.2] at hcompile
    obtain ⟨out, hout, hread⟩ := compile_jsonText hvalid .builtin .empty
      (by rw [hcompile]; decide) (by rw [hcompile]; decide)
    rw [hcompile] at hout
    cases hout
    exact ⟨_, congrArg Prod.fst hcompile,
      (hread _ List.mem_cons_self).2 ⟨.infinite false, by decide +kernel, rfl⟩⟩

end Recording

end FormulaChain
