import FormulaChain.Proofs.Formula.Shift
import FormulaChain.Proofs.Formula.Stack
import FormulaChain.Formula.Plan
import Mathlib.Data.List.Forall2

/-!
# Formulas under another stem

The stem of synthetic names is read by every test that a text from the stack goes through: whether
it closes or opens a vector literal, whether it is a numeral, and whether it begins with the stem.
Two plain stems that nothing in a formula begins with answer these tests alike, so that reading the
formula with one is reading it with the other up to the names of results (`Renamed.readWords`): each
is replaced by the one with the same number. Reports may quote names, but they have the same kinds
in the same order.
-/

namespace FormulaChain

/-- The corresponding name under another stem: a synthetic name is replaced by the one with the same
number, other names stay. -/
def restem (p q name : String) : String :=
  (syntheticNumber? p name).elim name (syntheticName q)

section Restem

variable {p q : String}

@[simp]
theorem restem_syntheticName (p q : String) (n : Nat) :
    restem p q (syntheticName p n) = syntheticName q n := by
  simp [restem, syntheticNumber?_eq_some.mpr rfl]

theorem restem_of_ne {name : String} (h : ∀ n, name ≠ syntheticName p n) (q : String) :
    restem p q name = name := by
  have hnone : syntheticNumber? p name = none :=
    Option.eq_none_iff_forall_ne_some.mpr fun n hn => h n (syntheticNumber?_eq_some.mp hn)
  simp [restem, hnone]

theorem restem_of_not_hasStem {name : String} (h : hasStem p name = false) (q : String) :
    restem p q name = name :=
  restem_of_ne (ne_syntheticName_of_not_hasStem h) q

end Restem

/-- A stem that nothing in a formula can be mistaken for: it is plain, and neither a word nor the
placeholder of a missing operand begins with it. -/
structure Foreign (stem : String) (words : List String) : Prop where
  /-- Synthetic names are read as names. -/
  plain : PlainStem stem
  /-- No word begins with the stem. -/
  words : ∀ word ∈ words, hasStem stem word = false
  /-- The placeholder does not begin with the stem. -/
  missing : hasStem stem "no_arg" = false

/-! ### Stacks -/

/-- Entries that wait in two readings with different stems: the same word, or the results of the
same node under names with the same number. -/
inductive Counterpart (p q : String) : StackEntry → StackEntry → Prop where
  /-- A word. -/
  | word {text : String} : hasStem p text = false → hasStem q text = false →
      Counterpart p q (.word text) (.word text)
  /-- A result. -/
  | result (node number : Nat) :
      Counterpart p q (.result node (syntheticName p number))
        (.result node (syntheticName q number))

/-- Each entry of a stack has its counterpart. -/
abbrev StacksMatch (p q : String) (stack stack' : List StackEntry) : Prop :=
  List.Forall₂ (Counterpart p q) stack stack'

/-- The kinds of reports, in order. -/
def kindsOf (reports : List Diagnostic) : List DiagnosticKind := reports.map (·.kind)

@[simp]
theorem kindsOf_append (reports more : List Diagnostic) :
    kindsOf (reports ++ more) = kindsOf reports ++ kindsOf more :=
  List.map_append

/-- What is read from two stacks: the same value, reports of the same kinds, and stacks that
match. -/
structure ReadsAlike {α : Type} (p q : String) (a b : α × List Diagnostic × List StackEntry) :
    Prop where
  /-- The values. -/
  value : a.1 = b.1
  /-- The reports. -/
  kinds : kindsOf a.2.1 = kindsOf b.2.1
  /-- What is left of the stacks. -/
  stack : StacksMatch p q a.2.2 b.2.2

section Vectors

variable {p q : String} {stack stack' : List StackEntry}

/-- Texts that are the same numeral, or none, are components alike. -/
theorem component_alike {text text' : Option String}
    (h : text.bind Single.ofText? = text'.bind Single.ofText?) :
    (component text).1 = (component text').1 ∧
      kindsOf (component text).2 = kindsOf (component text').2 := by
  unfold component
  rw [h]
  cases text'.bind Single.ofText? with
  | some value => exact ⟨rfl, rfl⟩
  | none => exact ⟨rfl, rfl⟩

theorem Counterpart.numeral {entry entry' : StackEntry} (hp : PlainStem p) (hq : PlainStem q)
    (h : Counterpart p q entry entry') :
    Single.ofText? entry.text = Single.ofText? entry'.text := by
  cases h with
  | word _ _ => rfl
  | result node number => exact (hp.noNumeral number).trans (hq.noNumeral number).symm

theorem Counterpart.eq_opening_iff {entry entry' : StackEntry} (hp : PlainStem p)
    (hq : PlainStem q) (h : Counterpart p q entry entry') :
    entry.text = "(" ↔ entry'.text = "(" := by
  cases h with
  | word _ _ => exact Iff.rfl
  | result node number => exact iff_of_false (hp.ne_opening number) (hq.ne_opening number)

theorem takeTop_alike (hp : PlainStem p) (hq : PlainStem q) (h : StacksMatch p q stack stack') :
    (takeTop stack).1.bind Single.ofText? = (takeTop stack').1.bind Single.ofText? ∧
      StacksMatch p q (takeTop stack).2 (takeTop stack').2 := by
  cases h with
  | nil => exact ⟨rfl, .nil⟩
  | cons hentry hbelow => exact ⟨hentry.numeral hp hq, hbelow⟩

theorem takeOpening_alike (hp : PlainStem p) (hq : PlainStem q)
    (h : StacksMatch p q stack stack') :
    kindsOf (takeOpening stack).1 = kindsOf (takeOpening stack').1 ∧
      StacksMatch p q (takeOpening stack).2 (takeOpening stack').2 := by
  cases h with
  | nil => exact ⟨rfl, .nil⟩
  | @cons entry entry' below below' hentry hbelow =>
    simp only [takeOpening, hentry.eq_opening_iff hp hq]
    by_cases ho : entry'.text = "("
    · rw [if_pos ho, if_pos ho]
      exact ⟨rfl, hbelow⟩
    · rw [if_neg ho, if_neg ho]
      exact ⟨rfl, .cons hentry hbelow⟩

/-- The first component when it is not fused with its parenthesis. -/
theorem takeFirst_of_notOpening {entry : StackEntry} (h : withoutOpening? entry.text = none)
    (below : List StackEntry) :
    takeFirst (entry :: below) = ((component (some entry.text)).1,
      (takeOpening below).1 ++ (component (some entry.text)).2, (takeOpening below).2) := by
  simp [takeFirst, takeTop, h]

theorem takeFirst_alike (hp : PlainStem p) (hq : PlainStem q) (h : StacksMatch p q stack stack') :
    ReadsAlike p q (takeFirst stack) (takeFirst stack') := by
  cases h with
  | nil => exact ⟨rfl, rfl, .nil⟩
  | @cons entry entry' below below' hentry hbelow =>
    obtain ⟨hkinds, hstacks⟩ := takeOpening_alike hp hq hbelow
    have hsame : (some entry.text).bind Single.ofText? = (some entry'.text).bind Single.ofText? :=
      hentry.numeral hp hq
    obtain ⟨hvalue, hcomponent⟩ := component_alike hsame
    have hapart : withoutOpening? entry.text = none → withoutOpening? entry'.text = none →
        ReadsAlike p q (takeFirst (entry :: below)) (takeFirst (entry' :: below')) := by
      intro hno hno'
      rw [takeFirst_of_notOpening hno, takeFirst_of_notOpening hno']
      exact ⟨hvalue, by rw [kindsOf_append, kindsOf_append, hkinds, hcomponent], hstacks⟩
    cases hentry with
    | @word text _ _ =>
      cases ho : withoutOpening? text with
      | none => exact hapart ho ho
      | some fused =>
        simp only [takeFirst, takeTop, StackEntry.text, ho]
        exact ⟨rfl, rfl, hbelow⟩
    | result node number =>
      exact hapart (withoutOpening?_eq_none (hp.opening_notMem number))
        (withoutOpening?_eq_none (hq.opening_notMem number))

theorem takeLast_alike (hp : PlainStem p) (hq : PlainStem q) (fused : String)
    (h : StacksMatch p q stack stack') :
    ReadsAlike p q (takeLast fused stack) (takeLast fused stack') := by
  by_cases hf : fused = ""
  · obtain ⟨htext, hstacks⟩ := takeTop_alike hp hq h
    obtain ⟨hvalue, hkinds⟩ := component_alike htext
    simp only [takeLast, if_pos hf]
    exact ⟨hvalue, hkinds, hstacks⟩
  · simp only [takeLast, if_neg hf]
    exact ⟨rfl, rfl, h⟩

/-- Vector literals are read alike from stacks that match. -/
theorem takeVector_alike (hp : PlainStem p) (hq : PlainStem q) (fused : String)
    (h : StacksMatch p q stack stack') :
    ReadsAlike p q (takeVector fused stack) (takeVector fused stack') := by
  have hz := takeLast_alike hp hq fused h
  obtain ⟨htext, htop⟩ := takeTop_alike hp hq hz.stack
  obtain ⟨hy, hykinds⟩ := component_alike htext
  have hx := takeFirst_alike hp hq htop
  simp only [takeVector]
  refine ⟨?_, ?_, hx.stack⟩
  · rw [hz.value, hy, hx.value]
  · simp only [kindsOf_append, hz.kinds, hykinds, hx.kinds]

end Vectors

/-! ### Evaluations -/

/-- A reading with one stem and its counterpart with another. -/
structure Renamed (p q : String) (e e' : Evaluation) : Prop where
  /-- What waits. -/
  stack : StacksMatch p q e.stack e'.stack
  /-- The numbers of the next names are equal. -/
  counter : e'.counter = e.counter
  /-- Operators read and write the corresponding names. -/
  steps : e'.steps = e.steps.map (·.mapNames (restem p q))
  /-- The reports have the same kinds. -/
  kinds : kindsOf e'.diagnostics = kindsOf e.diagnostics

namespace Renamed

open Evaluation

variable {p q : String} {e e' : Evaluation} {operation : Operation} {arity : Nat}

theorem start (p q : String) : Renamed p q .start .start := ⟨.nil, rfl, rfl, rfl⟩

theorem withStack (h : Renamed p q e e') {stack stack' : List StackEntry}
    (hs : StacksMatch p q stack stack') :
    Renamed p q { e with stack := stack } { e' with stack := stack' } :=
  ⟨hs, h.counter, h.steps, h.kinds⟩

/-- A word is resolved alike. -/
theorem resolve_word (h : Renamed p q e e') (hp : PlainStem p) (hq : PlainStem q) {text : String}
    (hnp : hasStem p text = false) (hnq : hasStem q text = false) :
    (e'.resolve q text).1 = (e.resolve p text).1.mapName (restem p q) ∧
      Renamed p q (e.resolve p text).2 (e'.resolve q text).2 := by
  cases hc : withoutClosing? text with
  | some fused =>
    have hv := takeVector_alike hp hq fused h.stack
    rw [resolve_vector hc, resolve_vector hc]
    refine ⟨congrArg Operand.vector hv.value.symm, hv.stack, h.counter, h.steps, ?_⟩
    rw [kindsOf_append, kindsOf_append, h.kinds, hv.kinds]
  | none =>
    cases hv : Single.ofText? text with
    | some value =>
      rw [resolve_scalar hc hv, resolve_scalar hc hv]
      exact ⟨rfl, h⟩
    | none =>
      rw [resolve_name hc hv hnp, resolve_name hc hv hnq]
      exact ⟨congrArg Operand.reference (restem_of_not_hasStem hnp q).symm, h⟩

/-- A result is resolved alike: it gives its number back in both readings. -/
theorem resolve_result (h : Renamed p q e e') (hp : PlainStem p) (hq : PlainStem q)
    (number : Nat) :
    (e'.resolve q (syntheticName q number)).1 =
        (e.resolve p (syntheticName p number)).1.mapName (restem p q) ∧
      Renamed p q (e.resolve p (syntheticName p number)).2
        (e'.resolve q (syntheticName q number)).2 := by
  rw [resolve_of_givesBack (hp.givesBack number), resolve_of_givesBack (hq.givesBack number)]
  refine ⟨congrArg Operand.reference (restem_syntheticName p q number).symm, h.stack, ?_,
    h.steps, h.kinds⟩
  show e'.counter - 1 = e.counter - 1
  rw [h.counter]

theorem takeOperand (h : Renamed p q e e') (hp : PlainStem p) (hq : PlainStem q)
    (hmissing : hasStem p "no_arg" = false) (operation : Operation) (arity : Nat)
    (taken taken' : List Operand) :
    (e'.takeOperand q operation arity taken').1 =
        (e.takeOperand p operation arity taken).1.mapName (restem p q) ∧
      Renamed p q (e.takeOperand p operation arity taken).2
        (e'.takeOperand q operation arity taken').2 := by
  obtain ⟨stack, counter, steps, diagnostics⟩ := e
  obtain ⟨stack', counter', steps', diagnostics'⟩ := e'
  cases h.stack with
  | nil =>
    rw [takeOperand_nil rfl, takeOperand_nil rfl]
    refine ⟨congrArg Operand.reference (restem_of_not_hasStem hmissing q).symm, .nil, h.counter,
      h.steps, ?_⟩
    have hkinds : kindsOf diagnostics' = kindsOf diagnostics := h.kinds
    show kindsOf (diagnostics' ++ [_]) = kindsOf (diagnostics ++ [_])
    rw [kindsOf_append, kindsOf_append, hkinds]
    rfl
  | cons hentry hbelow =>
    rw [takeOperand_cons rfl, takeOperand_cons rfl]
    cases hentry with
    | word hnp hnq => exact (h.withStack hbelow).resolve_word hp hq hnp hnq
    | result node number => exact (h.withStack hbelow).resolve_result hp hq number

/-- All operands of an operator are taken alike, since each is. -/
theorem takeOperands (hp : PlainStem p) (hq : PlainStem q) (hmissing : hasStem p "no_arg" = false)
    (operation : Operation) (arity count : Nat) :
    ∀ {e e' : Evaluation}, Renamed p q e e' → ∀ taken : List Operand,
      (e'.takeOperands q operation arity count (taken.map (·.mapName (restem p q)))).1 =
          (e.takeOperands p operation arity count taken).1.map (·.mapName (restem p q)) ∧
        Renamed p q (e.takeOperands p operation arity count taken).2
          (e'.takeOperands q operation arity count (taken.map (·.mapName (restem p q)))).2 := by
  induction count with
  | zero => exact fun h taken => ⟨rfl, h⟩
  | succ count ih =>
    intro e e' h taken
    obtain ⟨hoperand, hnext⟩ := h.takeOperand hp hq hmissing operation arity taken
      (taken.map (·.mapName (restem p q)))
    have hrest := ih hnext (taken ++ [(e.takeOperand p operation arity taken).1])
    rw [List.map_append, List.map_singleton, ← hoperand] at hrest
    exact hrest

theorem collectArgs (h : Renamed p q e e') (hp : PlainStem p) (hq : PlainStem q)
    (hmissing : hasStem p "no_arg" = false) (operation : Operation) (arity : Nat) :
    (e'.collectArgs q operation arity).1 =
        (e.collectArgs p operation arity).1.map (·.mapName (restem p q)) ∧
      Renamed p q (e.collectArgs p operation arity).2 (e'.collectArgs q operation arity).2 := by
  obtain ⟨htaken, hleft⟩ := takeOperands hp hq hmissing operation arity arity h []
  refine ⟨?_, hleft⟩
  show List.reverse _ = List.map _ (List.reverse _)
  rw [List.map_reverse, ← htaken]
  rfl

/-- Results get names with the same number. -/
theorem emit (h : Renamed p q e e') (operation : Operation) (args : List Operand) :
    Renamed p q (e.emit p operation args)
      (e'.emit q operation (args.map (·.mapName (restem p q)))) := by
  have hlength : e'.steps.length = e.steps.length := by rw [h.steps, List.length_map]
  simp only [Evaluation.emit, hlength, h.counter]
  refine ⟨.cons (.result _ _) h.stack, rfl, ?_, h.kinds⟩
  rw [h.steps, List.map_append, List.map_singleton, Step.mapNames, restem_syntheticName]

/-- One word is read alike. -/
theorem consume (h : Renamed p q e e') (hp : PlainStem p) (hq : PlainStem q)
    (hmissing : hasStem p "no_arg" = false) (catalog : Catalog) {word : String}
    (hnp : hasStem p word = false) (hnq : hasStem q word = false) :
    Renamed p q (e.consume catalog p word) (e'.consume catalog q word) := by
  cases hl : catalog.lookup word .either with
  | none =>
    rw [consume_operand hl, consume_operand hl]
    exact h.withStack (.cons (.word hnp hnq) h.stack)
  | some spec =>
    rw [consume_operator hl, consume_operator hl]
    obtain ⟨hargs, hleft⟩ := h.collectArgs hp hq hmissing spec.operation spec.arity
    rw [hargs]
    exact hleft.emit _ _

/-- **Any number of words is read alike.** -/
theorem readWords {words : List String} (hp : Foreign p words) (hq : Foreign q words)
    (catalog : Catalog) (h : Renamed p q e e') :
    Renamed p q (e.readWords catalog p words) (e'.readWords catalog q words) := by
  induction words generalizing e e' with
  | nil => exact h
  | cons word words ih =>
    have hnext := h.consume hp.plain hq.plain hp.missing catalog
      (hp.words word List.mem_cons_self) (hq.words word List.mem_cons_self)
    exact ih ⟨hp.plain, fun w hw => hp.words w (List.mem_cons_of_mem _ hw), hp.missing⟩
      ⟨hq.plain, fun w hw => hq.words w (List.mem_cons_of_mem _ hw), hq.missing⟩ hnext

end Renamed

end FormulaChain
