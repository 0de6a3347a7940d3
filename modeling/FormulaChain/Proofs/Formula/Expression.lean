import FormulaChain.Proofs.Catalog.Builtin
import FormulaChain.Proofs.Formula.Stack
import Mathlib.Data.List.OfFn

/-!
# Expressions in postfix order

An expression over the built-in operators is a tree: at its leaves stand numbers, vector literals in
any of their four spellings and names of outside attributes, and each operator has as many operands
as its arity says. Its words in postfix order, joined by spaces, are a formula.

A leaf waits on the stack as it is written, and an operator that takes it gets the operand that the
leaf stands for (`takeOperand_leaf`).
-/

namespace FormulaChain

/-- A word that is read as a number. -/
structure NumberWord where
  /-- The word. -/
  text : String
  /-- The number. -/
  value : Single
  /-- The word is a literal of the number. -/
  reads : Single.ofText? text = some value

/-- A word that is read as the name of an outside attribute, where results have this stem. -/
structure AttributeWord (stem : String) where
  /-- The name. -/
  text : String
  /-- It is one word. -/
  isToken : IsToken text
  /-- It is no number. -/
  noNumber : Single.ofText? text = none
  /-- It is no built-in operator. -/
  noOperator : text ∉ Catalog.builtin.spellings
  /-- It is not the result arrow. -/
  noArrow : text ≠ resultArrow
  /-- It ends no vector literal. -/
  noClosing : text.toList.getLast? ≠ some ')'
  /-- It does not begin like the name of a result. -/
  noStem : hasStem stem text = false

/-- A word that is a built-in operator. -/
structure OperatorWord where
  /-- The spelling. -/
  text : String
  /-- The operator. -/
  spec : OperatorSpec
  /-- The catalog has the operator under this spelling. -/
  found : Catalog.builtin.lookup text .either = some spec

/-- Every spelling of a built-in operator is such a word. -/
def OperatorWord.ofSpelling (text : String) (spec : OperatorSpec)
    (hspec : spec ∈ scalarOperators ++ vectorOperators) (htext : text ∈ spec.spellings) :
    OperatorWord :=
  ⟨text, spec, Catalog.lookup_builtin_of_mem hspec htext⟩

/-- An operand as it is written. -/
inductive Leaf (stem : String) where
  /-- A number. -/
  | number (word : NumberWord)
  /-- A vector literal; each parenthesis stands apart from its neighbour or is fused with it. -/
  | vector (openingApart closingApart : Bool) (x y z : NumberWord)
  /-- The name of an outside attribute. -/
  | name (word : AttributeWord stem)

/-- An expression over the built-in operators. -/
inductive Expression (stem : String) where
  /-- An operand. -/
  | leaf (operand : Leaf stem)
  /-- An operator with exactly as many operands as it takes. -/
  | apply (operator : OperatorWord) (args : Fin operator.spec.arity → Expression stem)

variable {stem : String}

/-- The words of a vector literal up to its first component. -/
def openingWords (apart : Bool) (x : NumberWord) : List String :=
  if apart then ["(", x.text] else ["(" ++ x.text]

/-- The words of a vector literal from its last component on. -/
def closingWords (apart : Bool) (z : NumberWord) : List String :=
  if apart then [z.text, ")"] else [z.text ++ ")"]

/-- The words of an operand. -/
def Leaf.words : Leaf stem → List String
  | .number word => [word.text]
  | .vector openingApart closingApart x y z =>
    openingWords openingApart x ++ y.text :: closingWords closingApart z
  | .name word => [word.text]

/-- What an operator gets for an operand. -/
def Leaf.operand : Leaf stem → Operand
  | .number word => .scalar word.value
  | .vector _ _ x y z => .vector ⟨x.value, y.value, z.value⟩
  | .name word => .reference word.text

namespace Expression

/-- The words of an expression in postfix order. -/
def words : Expression stem → List String
  | .leaf operand => operand.words
  | .apply operator args => (List.ofFn fun i => (args i).words).flatten ++ [operator.text]

/-- The formula of an expression. -/
def formula (t : Expression stem) : String := " ".intercalate t.words

/-- The operations of an expression, each after those of its operands. -/
def operations : Expression stem → List Operation
  | .leaf _ => []
  | .apply operator args =>
    (List.ofFn fun i => (args i).operations).flatten ++ [operator.spec.operation]

end Expression

/-! ### The words of operands -/

/-- A word that can stand for an operand or for a part of one. -/
structure OperandWord (text : String) : Prop where
  /-- It is one word. -/
  isToken : IsToken text
  /-- It is not the result arrow. -/
  noArrow : text ≠ resultArrow
  /-- It is no built-in operator. -/
  noOperator : Catalog.builtin.lookup text .either = none

namespace NumberWord

variable (word : NumberWord)

theorem isNumeralChar_of_mem {c : Char} (h : c ∈ word.text.toList) : isNumeralChar c = true :=
  Single.isNumeralChar_of_ofText? word.reads h

theorem text_ne_empty : word.text ≠ "" := by
  intro h
  have hr := word.reads
  rw [h, Single.ofText?_empty] at hr
  cases hr

theorem withoutClosing?_text : withoutClosing? word.text = none :=
  withoutClosing?_eq_none fun h => absurd (word.isNumeralChar_of_mem h) (by decide)

theorem withoutOpening?_text : withoutOpening? word.text = none :=
  withoutOpening?_eq_none fun h => absurd (word.isNumeralChar_of_mem h) (by decide)

theorem component_text : component (some word.text) = (word.value, []) := by
  simp [component, word.reads]

theorem operandWord : OperandWord word.text where
  isToken := isToken_of_numeral word.text_ne_empty fun _ hc => .inl (word.isNumeralChar_of_mem hc)
  noArrow := by
    intro h
    have hr := word.reads
    have hn : Single.ofText? resultArrow = none := by decide
    rw [h, hn] at hr
    cases hr
  noOperator := Catalog.lookup_builtin_of_ofText? word.reads

theorem operandWord_opening : OperandWord ("(" ++ word.text) := by
  have hl : ("(" ++ word.text).toList = '(' :: word.text.toList := by
    rw [String.toList_append]
    rfl
  refine ⟨isToken_of_numeral ?_ fun c hc => ?_, ?_, Catalog.lookup_builtin_of_opening ?_⟩
  · intro h
    rw [h] at hl
    cases hl
  · rw [hl] at hc
    rcases List.mem_cons.mp hc with rfl | hc
    · exact .inr (.inl rfl)
    · exact .inl (word.isNumeralChar_of_mem hc)
  · intro h
    rw [h] at hl
    have hhead : resultArrow.toList.head? = some '(' := congrArg List.head? hl
    exact absurd hhead (by decide)
  · rw [hl]
    rfl

theorem operandWord_closing : OperandWord (word.text ++ ")") := by
  have hl : (word.text ++ ")").toList = word.text.toList ++ [')'] := by
    rw [String.toList_append]
    rfl
  refine ⟨isToken_of_numeral ?_ fun c hc => ?_, ?_, Catalog.lookup_builtin_of_closing ?_⟩
  · intro h
    rw [h] at hl
    exact absurd hl.symm (by simp)
  · rw [hl] at hc
    rcases List.mem_append.mp hc with hc | hc
    · exact .inl (word.isNumeralChar_of_mem hc)
    · exact .inr (.inr (List.mem_singleton.mp hc))
  · intro h
    rw [h] at hl
    have hlast := congrArg List.getLast? hl
    rw [List.getLast?_concat] at hlast
    exact absurd hlast (by decide)
  · rw [hl, List.getLast?_concat]

end NumberWord

theorem operandWord_parenthesis {text : String} (h : text = "(" ∨ text = ")") :
    OperandWord text := by
  rcases h with rfl | rfl
  · exact ⟨by decide, by decide, Catalog.lookup_builtin_of_opening (by decide)⟩
  · exact ⟨by decide, by decide, Catalog.lookup_builtin_of_closing (by decide)⟩

theorem AttributeWord.operandWord (word : AttributeWord stem) : OperandWord word.text :=
  ⟨word.isToken, word.noArrow, Catalog.lookup_eq_none_of_notMem word.noOperator⟩

theorem operandWord_of_mem_openingWords {apart : Bool} {x : NumberWord} {text : String}
    (h : text ∈ openingWords apart x) : OperandWord text := by
  cases apart with
  | false =>
    rw [List.mem_singleton.mp h]
    exact x.operandWord_opening
  | true =>
    rcases List.mem_pair.mp h with rfl | rfl
    · exact operandWord_parenthesis (.inl rfl)
    · exact x.operandWord

theorem operandWord_of_mem_closingWords {apart : Bool} {z : NumberWord} {text : String}
    (h : text ∈ closingWords apart z) : OperandWord text := by
  cases apart with
  | false =>
    rw [List.mem_singleton.mp h]
    exact z.operandWord_closing
  | true =>
    rcases List.mem_pair.mp h with rfl | rfl
    · exact z.operandWord
    · exact operandWord_parenthesis (.inr rfl)

/-- No word of an operand is an operator or the result arrow. -/
theorem Leaf.operandWord_of_mem {leaf : Leaf stem} {text : String} (h : text ∈ leaf.words) :
    OperandWord text := by
  cases leaf with
  | number word =>
    rw [List.mem_singleton.mp h]
    exact word.operandWord
  | vector openingApart closingApart x y z =>
    rcases List.mem_append.mp h with h | h
    · exact operandWord_of_mem_openingWords h
    · rcases List.mem_cons.mp h with rfl | h
      · exact y.operandWord
      · exact operandWord_of_mem_closingWords h
  | name word =>
    rw [List.mem_singleton.mp h]
    exact word.operandWord

/-- The words of an expression are words of its formula, and none is the result arrow. -/
theorem Expression.isToken_of_mem (t : Expression stem) {text : String} (h : text ∈ t.words) :
    IsToken text ∧ text ≠ resultArrow := by
  induction t with
  | leaf operand =>
    have hword : OperandWord text := Leaf.operandWord_of_mem h
    exact ⟨hword.isToken, hword.noArrow⟩
  | apply operator args ih =>
    rcases List.mem_append.mp h with h | h
    · obtain ⟨words, hwords, hmem⟩ := List.mem_flatten.mp h
      obtain ⟨i, rfl⟩ := List.mem_ofFn.mp hwords
      exact ih i hmem
    · rw [List.mem_singleton.mp h]
      have hspelling := Catalog.plainSpelling_of_mem_builtin
        (Catalog.mem_spellings_of_lookup operator.found)
      exact ⟨hspelling.isToken, hspelling.noArrow⟩

/-- The words of the formula of an expression are its words. -/
theorem Expression.tokenize_formula (t : Expression stem) : tokenize t.formula = t.words :=
  tokenize_intercalate fun _ hmem => (t.isToken_of_mem hmem).1

/-! ### Taking an operand -/

/-- What waits for some words, the latest first. -/
def waiting (words : List String) : List StackEntry := (words.map .word).reverse

@[simp]
theorem map_text_waiting (words : List String) :
    (waiting words).map StackEntry.text = words.reverse := by
  rw [waiting, List.map_reverse, List.map_map]
  exact congrArg List.reverse (List.map_id words)

/-- The last word of a literal ends in a closing parenthesis. -/
theorem exists_closingWords (apart : Bool) (z : NumberWord) :
    ∃ fused init, closingWords apart z = init ++ [fused ++ ")"] := by
  cases apart with
  | false => exact ⟨z.text, [], rfl⟩
  | true => exact ⟨"", [z.text], rfl⟩

/-- What closes a literal is read as its last component. -/
theorem takeLast_spelled {apart : Bool} {z : NumberWord} {fused : String} {above : List StackEntry}
    (h : (fused ++ ")") :: above.map StackEntry.text = (closingWords apart z).reverse)
    (below : List StackEntry) : takeLast fused (above ++ below) = (z.value, [], below) := by
  cases apart with
  | false =>
    obtain ⟨hclosing, hnil⟩ := List.cons.inj h
    rw [String.append_left_inj] at hclosing
    rw [List.map_eq_nil_iff.mp hnil, hclosing]
    simp [takeLast, z.text_ne_empty, z.component_text]
  | true =>
    obtain ⟨hclosing, hlast⟩ := List.cons.inj h
    obtain ⟨entry, rfl, htext⟩ := List.map_eq_singleton_iff.mp hlast
    have hfused : fused = "" :=
      (String.append_left_inj ")").mp (hclosing.trans String.empty_append.symm)
    simp [takeLast, takeTop, hfused, htext, z.component_text]

/-- What opens a literal is read as its first component. -/
theorem takeFirst_spelled {apart : Bool} {x : NumberWord} {above : List StackEntry}
    (h : above.map StackEntry.text = (openingWords apart x).reverse) (below : List StackEntry) :
    takeFirst (above ++ below) = (x.value, [], below) := by
  cases apart with
  | false =>
    obtain ⟨entry, rfl, htext⟩ := List.map_eq_singleton_iff.mp h
    simp [takeFirst, takeTop, htext, withoutOpening?_append, x.component_text]
  | true =>
    obtain ⟨entry, more, rfl, htext, hmore⟩ := List.map_eq_cons_iff.mp h
    obtain ⟨opening, rfl, hopening⟩ := List.map_eq_singleton_iff.mp hmore
    simp [takeFirst, takeTop, takeOpening, htext, hopening, x.withoutOpening?_text,
      x.component_text]

/-- **A literal that is spelled right** is read in full, and what lies below it is left. -/
theorem takeVector_spelled {openingApart closingApart : Bool} {x y z : NumberWord} {fused : String}
    {above : List StackEntry}
    (h : (fused ++ ")") :: above.map StackEntry.text =
      (openingWords openingApart x ++ y.text :: closingWords closingApart z).reverse)
    (below : List StackEntry) :
    takeVector fused (above ++ below) = (⟨x.value, y.value, z.value⟩, [], below) := by
  rw [List.reverse_append, List.reverse_cons, List.append_assoc, List.singleton_append,
    List.cons_eq_append_iff] at h
  rcases h with ⟨hnone, -⟩ | ⟨last, hlast, habove⟩
  · cases closingApart <;> cases hnone
  · obtain ⟨upper, lower, rfl, rfl, hlower⟩ := List.map_eq_append_iff.mp habove
    obtain ⟨entry, first, rfl, hmiddle, hfirst⟩ := List.map_eq_cons_iff.mp hlower
    rw [List.append_assoc, List.cons_append, takeVector, takeLast_spelled hlast.symm]
    simp only [takeTop, hmiddle, y.component_text, takeFirst_spelled hfirst, List.append_nil]

namespace Evaluation

variable {operation : Operation} {arity : Nat}

/-- **An operator that takes a leaf gets the operand the leaf stands for**, and nothing else
changes. -/
theorem takeOperand_leaf {e : Evaluation} {below : List StackEntry} (leaf : Leaf stem)
    (h : e.stack = waiting leaf.words ++ below) (taken : List Operand) :
    e.takeOperand stem operation arity taken = (leaf.operand, { e with stack := below }) := by
  cases leaf with
  | number word =>
    rw [takeOperand_cons h]
    exact resolve_scalar word.withoutClosing?_text word.reads
  | vector openingApart closingApart x y z =>
    obtain ⟨fused, init, hclosing⟩ := exists_closingWords closingApart z
    have hstack : e.stack = .word (fused ++ ")") ::
        (waiting (openingWords openingApart x ++ y.text :: init) ++ below) := by
      simp [h, Leaf.words, hclosing, waiting]
    have htexts : (fused ++ ")") ::
        (waiting (openingWords openingApart x ++ y.text :: init)).map StackEntry.text =
          (openingWords openingApart x ++ y.text :: closingWords closingApart z).reverse := by
      simp [hclosing]
    rw [takeOperand_cons hstack, StackEntry.text, resolve_vector (withoutClosing?_append fused),
      takeVector_spelled htexts]
    simp [Leaf.operand]
  | name word =>
    rw [takeOperand_cons h]
    refine resolve_name ?_ word.noNumber word.noStem
    exact if_neg word.noClosing

end Evaluation

end FormulaChain
