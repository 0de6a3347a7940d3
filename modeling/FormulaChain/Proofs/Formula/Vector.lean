import FormulaChain.Proofs.Formula.Expression

/-!
# Reading vector literals

A closing word ends a vector literal whatever lies on the stack below it. Which entries it takes,
which texts count as the components and what is reported is said here by depth, counted from the top
of the stack: the last component lies on top unless it is fused with the closing parenthesis, the
other two lie below it in reverse, and the opening parenthesis lies below the first component unless
it is fused with that (`takeVector_eq`).

So a literal that is spelled right is read in full and leaves what lies below it, and any other
takes four entries at most and raises one report for each part that is amiss (`resolve_literal`).
-/

namespace FormulaChain

/-- The text at a depth of a stack, counted from its top. -/
def textAt (stack : List StackEntry) (depth : Nat) : Option String :=
  stack[depth]?.map StackEntry.text

/-- What the text of a component counts as. -/
def componentValue (text : Option String) : Single := (text.bind Single.ofText?).getD .zero

/-- What is reported about a component: nothing about a numeral, one report about any other text or
none at all. -/
def componentReports (text : Option String) : List Diagnostic :=
  if text.bind Single.ofText? = none then
    [.ofKind .malformedOperand
      ("Vectors are made up of floats separated by spaces. Got: " ++ text.getD "")]
  else []

theorem component_eq (text : Option String) :
    component text = (componentValue text, componentReports text) := by
  unfold component componentValue componentReports
  cases text.bind Single.ofText? with
  | none => rfl
  | some value => rfl

/-! ### Where the parts of a literal lie -/

section Parts

variable (fused : String) (stack : List StackEntry)

/-- How many entries the last component takes, if the closing word has this text before its
parenthesis. -/
def lastTaken : Nat := if fused = "" then 1 else 0

/-- The text of the last component. -/
def lastText : Option String := if fused = "" then textAt stack 0 else some fused

/-- The text of the middle component. -/
def middleText : Option String := textAt stack (lastTaken fused)

/-- The text of the entry in which the first component lies. -/
def firstEntry : Option String := textAt stack (lastTaken fused + 1)

/-- The text of the first component, without a parenthesis that is fused with it. -/
def firstText : Option String :=
  (firstEntry fused stack).map fun text => (withoutOpening? text).getD text

/-- Whether the first component is there and no parenthesis is fused with it. -/
def opensApart : Bool := (firstEntry fused stack).any (withoutOpening? · = none)

/-- Whether an opening parenthesis stands alone below the first component. -/
def hasOpening : Bool := textAt stack (lastTaken fused + 2) = some "("

/-- What is reported about the opening parenthesis: that it is not there, if it is looked for. -/
def openingReports : List Diagnostic :=
  if opensApart fused stack && !hasOpening fused stack then [takeOpening.missing] else []

/-- How many entries a literal takes, its closing word apart. -/
def literalLength : Nat :=
  lastTaken fused + 2 + if opensApart fused stack && hasOpening fused stack then 1 else 0

/-- All that is reported about a literal. -/
def literalReports : List Diagnostic :=
  componentReports (lastText fused stack) ++ componentReports (middleText fused stack) ++
    openingReports fused stack ++ componentReports (firstText fused stack)

/-- The vector that a literal stands for. -/
def literalValue : Triple :=
  ⟨componentValue (firstText fused stack), componentValue (middleText fused stack),
    componentValue (lastText fused stack)⟩

end Parts

theorem takeTop_eq (stack : List StackEntry) : takeTop stack = (textAt stack 0, stack.drop 1) := by
  cases stack <;> rfl

theorem takeLast_eq (fused : String) (stack : List StackEntry) :
    takeLast fused stack = (componentValue (lastText fused stack),
      componentReports (lastText fused stack), stack.drop (lastTaken fused)) := by
  unfold takeLast lastText lastTaken
  by_cases h : fused = ""
  · simp only [if_pos h, takeTop_eq, component_eq]
  · simp only [if_neg h, component_eq, List.drop_zero]

theorem takeOpening_eq (stack : List StackEntry) :
    takeOpening stack = (if textAt stack 0 = some "(" then ([], stack.drop 1)
      else ([takeOpening.missing], stack)) := by
  cases stack with
  | nil => simp [takeOpening, textAt]
  | cons entry below => simp [takeOpening, textAt]

theorem textAt_drop (stack : List StackEntry) (count depth : Nat) :
    textAt (stack.drop count) depth = textAt stack (count + depth) := by
  rw [textAt, textAt, List.getElem?_drop]

/-- The first component is read with what opens the literal. -/
theorem takeFirst_eq (fused : String) (stack : List StackEntry) :
    takeFirst (stack.drop (lastTaken fused + 1)) = (componentValue (firstText fused stack),
      openingReports fused stack ++ componentReports (firstText fused stack),
      stack.drop (literalLength fused stack)) := by
  have hopening : takeOpening (stack.drop (lastTaken fused + 2)) =
      if hasOpening fused stack then ([], stack.drop (lastTaken fused + 3))
      else ([takeOpening.missing], stack.drop (lastTaken fused + 2)) := by
    simp only [takeOpening_eq, textAt_drop, List.drop_drop, hasOpening, decide_eq_true_eq]
  have htop : takeTop (stack.drop (lastTaken fused + 1)) =
      (firstEntry fused stack, stack.drop (lastTaken fused + 2)) := by
    rw [takeTop_eq, textAt_drop, List.drop_drop]
    rfl
  unfold takeFirst firstText openingReports literalLength opensApart
  rw [htop]
  cases hfirst : firstEntry fused stack with
  | none => simp [component_eq]
  | some text =>
    cases hfused : withoutOpening? text with
    | some rest => simp [component_eq, hfused]
    | none =>
      by_cases hhas : hasOpening fused stack = true
      · simp [component_eq, hfused, hopening, hhas]
      · simp [component_eq, hfused, hopening, hhas]

/-- **Where the parts of a literal lie**, whatever is on the stack. -/
theorem takeVector_eq (fused : String) (stack : List StackEntry) :
    takeVector fused stack = (literalValue fused stack, literalReports fused stack,
      stack.drop (literalLength fused stack)) := by
  have hmiddle : takeTop (stack.drop (lastTaken fused)) =
      (middleText fused stack, stack.drop (lastTaken fused + 1)) := by
    rw [takeTop_eq, textAt_drop, List.drop_drop]
    rfl
  simp only [takeVector, takeLast_eq, hmiddle, component_eq, takeFirst_eq]
  rw [literalValue, literalReports, List.append_assoc, List.append_assoc, List.append_assoc]

/-- A literal takes three components and a parenthesis at most. -/
theorem literalLength_le (fused : String) (stack : List StackEntry) :
    literalLength fused stack ≤ 4 := by
  unfold literalLength lastTaken
  split <;> split <;> omega

/-! ### Literals that are not reported -/

/-- Whatever is reported about a literal is a malformed operand. -/
theorem kind_of_mem_literalReports {fused : String} {stack : List StackEntry} {d : Diagnostic}
    (h : d ∈ literalReports fused stack) : d.kind = .malformedOperand := by
  have hcomponent (text : Option String) (hd : d ∈ componentReports text) :
      d.kind = .malformedOperand := by
    unfold componentReports at hd
    split at hd
    · rw [List.mem_singleton.mp hd]
      rfl
    · cases hd
  simp only [literalReports, List.mem_append] at h
  rcases h with ((h | h) | h) | h
  · exact hcomponent _ h
  · exact hcomponent _ h
  · unfold openingReports at h
    split at h
    · rw [List.mem_singleton.mp h]
      rfl
    · cases h
  · exact hcomponent _ h

theorem exists_value_of_componentReports {text : Option String} (h : componentReports text = []) :
    ∃ numeral value, text = some numeral ∧ Single.ofText? numeral = some value := by
  cases hv : text.bind Single.ofText? with
  | none => simp [componentReports, hv] at h
  | some value =>
    obtain ⟨numeral, htext, hvalue⟩ := Option.bind_eq_some_iff.mp hv
    exact ⟨numeral, value, htext, hvalue⟩

/-- The texts that a literal can take without a report. -/
inductive LiteralPart : String → Prop where
  /-- A component. -/
  | numeral {text : String} {value : Single} (h : Single.ofText? text = some value) :
    LiteralPart text
  /-- The opening parenthesis alone. -/
  | opening : LiteralPart "("
  /-- The opening parenthesis fused with a component. -/
  | fused {text rest : String} {value : Single} (h : withoutOpening? text = some rest)
    (hv : Single.ofText? rest = some value) : LiteralPart text

/-- A literal that is not reported takes nothing else. -/
theorem literalPart_of_mem {fused : String} {stack : List StackEntry}
    (h : literalReports fused stack = []) {entry : StackEntry}
    (hmem : entry ∈ stack.take (literalLength fused stack)) : LiteralPart entry.text := by
  simp only [literalReports, List.append_eq_nil_iff] at h
  obtain ⟨⟨⟨hlast, hmiddle⟩, -⟩, hfirst⟩ := h
  obtain ⟨depth, hdepth⟩ := List.mem_iff_getElem?.mp hmem
  obtain ⟨hlt, hentry⟩ : depth < literalLength fused stack ∧ stack[depth]? = some entry := by
    rw [List.getElem?_take] at hdepth
    exact Option.ite_none_right_eq_some.mp hdepth
  have htext : textAt stack depth = some entry.text := by rw [textAt, hentry, Option.map_some]
  obtain hbelow | rfl | rfl | hopening : depth < lastTaken fused ∨ depth = lastTaken fused ∨
      depth = lastTaken fused + 1 ∨
      depth = lastTaken fused + 2 ∧ hasOpening fused stack = true := by
    unfold literalLength at hlt
    split at hlt
    · next hboth =>
      rw [(Bool.and_eq_true_iff.mp hboth).2, and_iff_left rfl]
      omega
    · omega
  · obtain ⟨numeral, value, hnumeral, hvalue⟩ := exists_value_of_componentReports hlast
    unfold lastTaken at hbelow
    unfold lastText at hnumeral
    split at hbelow
    · next hfused =>
      obtain rfl : depth = 0 := by omega
      rw [if_pos hfused, htext] at hnumeral
      cases hnumeral
      exact .numeral hvalue
    · omega
  · obtain ⟨numeral, value, hnumeral, hvalue⟩ := exists_value_of_componentReports hmiddle
    rw [middleText, htext] at hnumeral
    cases hnumeral
    exact .numeral hvalue
  · obtain ⟨numeral, value, hnumeral, hvalue⟩ := exists_value_of_componentReports hfirst
    rw [firstText, firstEntry, htext, Option.map_some] at hnumeral
    cases hrest : withoutOpening? entry.text with
    | none =>
      rw [hrest] at hnumeral
      cases hnumeral
      exact .numeral hvalue
    | some rest =>
      rw [hrest] at hnumeral
      cases hnumeral
      exact .fused hrest hvalue
  · obtain ⟨rfl, hopening⟩ := hopening
    rw [hasOpening, decide_eq_true_eq, htext] at hopening
    rw [Option.some.inj hopening]
    exact .opening

namespace Evaluation

variable {stem : String} {e : Evaluation}

/-- **How a text that ends in a closing parenthesis is resolved**, in every state and whatever the
text before the parenthesis. A component that is there and is a numeral counts as its number; any
other counts as zero and is reported once. The opening parenthesis is reported exactly if the first
component is there without one fused with it and none stands alone below it. Four entries at most
are taken, nothing else is reported, and the counter and the operators read so far stay.

If the text ends three numerals in any of the four spellings of a literal, the vector of their
numbers is read without a report and exactly what lies below the literal is left. -/
theorem resolve_literal (stem : String) (e : Evaluation) (fused : String) :
    e.resolve stem (fused ++ ")") = (.vector (literalValue fused e.stack),
      { e with
        stack := e.stack.drop (literalLength fused e.stack)
        diagnostics := e.diagnostics ++ literalReports fused e.stack }) ∧
    literalLength fused e.stack ≤ 4 ∧
    ∀ (openingApart closingApart : Bool) (x y z : NumberWord) (above below : List StackEntry),
      (fused ++ ")") :: above.map StackEntry.text =
        (openingWords openingApart x ++ y.text :: closingWords closingApart z).reverse →
      e.stack = above ++ below →
      e.resolve stem (fused ++ ")") =
        (.vector ⟨x.value, y.value, z.value⟩, { e with stack := below }) := by
  refine ⟨?_, literalLength_le fused e.stack, ?_⟩
  · rw [resolve_vector (withoutClosing?_append fused), takeVector_eq]
  · intro openingApart closingApart x y z above below htexts hstack
    rw [resolve_vector (withoutClosing?_append fused), hstack, takeVector_spelled htexts,
      List.append_nil]

/-- A literal on top of a result is read and leaves the result. -/
theorem resolve_literal_aboveResult :
    let one : NumberWord := ⟨"1", .finite false 1065353216, by decide⟩
    "1)" :: ["1", "1", "("] =
        (openingWords true one ++ one.text :: closingWords false one).reverse ∧
      (⟨[.word "1", .word "1", .word "(", .result 0 "mf_temp"], 1, [], []⟩ :
          Evaluation).resolve "mf_temp" "1)" =
        (.vector ⟨one.value, one.value, one.value⟩, ⟨[.result 0 "mf_temp"], 1, [], []⟩) := by
  intro one
  have htexts : "1)" :: ["1", "1", "("] =
      (openingWords true one ++ one.text :: closingWords false one).reverse := by decide
  exact ⟨htexts, (resolve_literal "mf_temp"
    ⟨[.word "1", .word "1", .word "(", .result 0 "mf_temp"], 1, [], []⟩ "1").2.2 true false
    one one one [.word "1", .word "1", .word "("] [.result 0 "mf_temp"] htexts rfl⟩

end Evaluation

end FormulaChain
