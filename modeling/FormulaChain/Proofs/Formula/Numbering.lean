import FormulaChain.Proofs.Formula.Stack

/-!
# The numbers of waiting results

The results that wait on the stack are told apart by their numbers, which one counter gives out and
takes back. As long as every number that is given back belongs to a result, the numbers fall from
the top of the stack down and all lie below the counter (`Numbered`): a result that is taken from
the top frees the counter down to its own number at most, and a result that a vector literal
swallows frees nothing.

The condition is that no word that waits gives a number back; it is kept from word to word
(`readWords_orderly`).
-/

namespace FormulaChain

/-- The results on a stack have numbers that fall from the top down, all below a bound. -/
def Numbered (stem : String) : Nat → List StackEntry → Prop
  | _, [] => True
  | bound, .word _ :: below => Numbered stem bound below
  | bound, .result _ name :: below =>
    ∃ number < bound, name = syntheticName stem number ∧ Numbered stem number below

namespace Numbered

variable {stem : String} {bound : Nat} {stack : List StackEntry}

theorem mono {bound' : Nat} (h : Numbered stem bound stack) (hb : bound ≤ bound') :
    Numbered stem bound' stack := by
  induction stack generalizing bound bound' with
  | nil => trivial
  | cons entry below ih =>
    cases entry with
    | word text => exact ih h hb
    | result node name =>
      obtain ⟨number, hlt, hname, hbelow⟩ := h
      exact ⟨number, hlt.trans_le hb, hname, hbelow⟩

theorem tail {entry : StackEntry} (h : Numbered stem bound (entry :: stack)) :
    Numbered stem bound stack := by
  cases entry with
  | word text => exact h
  | result node name =>
    obtain ⟨number, hlt, -, hbelow⟩ := h
    exact hbelow.mono hlt.le

theorem of_suffix {lower : List StackEntry} (h : Numbered stem bound stack)
    (hs : lower <:+ stack) : Numbered stem bound lower := by
  induction stack with
  | nil =>
    rw [List.suffix_nil.mp hs]
    trivial
  | cons entry below ih =>
    rcases List.suffix_cons_iff.mp hs with rfl | hs
    · exact h
    · exact ih h.tail hs

/-- Every result on the stack has a number below the bound. -/
theorem exists_number {node : Nat} {name : String} (h : Numbered stem bound stack)
    (hmem : StackEntry.result node name ∈ stack) :
    ∃ number < bound, name = syntheticName stem number := by
  induction stack with
  | nil => cases hmem
  | cons entry below ih =>
    rcases List.mem_cons.mp hmem with rfl | hmem
    · obtain ⟨number, hlt, hname, -⟩ := h
      exact ⟨number, hlt, hname⟩
    · exact ih h.tail hmem

/-- No result on the stack has the name that the bound would give. -/
theorem name_ne {node : Nat} {name : String} (h : Numbered stem bound stack)
    (hmem : StackEntry.result node name ∈ stack) : name ≠ syntheticName stem bound := by
  obtain ⟨number, hlt, rfl⟩ := h.exists_number hmem
  exact fun heq => hlt.ne (syntheticName_injective stem heq)

end Numbered

/-! ### Orderly states -/

/-- The results that wait are numbered, and no word that waits gives a number back. -/
structure Orderly (stem : String) (e : Evaluation) : Prop where
  /-- The numbers fall and lie below the counter. -/
  numbered : Numbered stem e.counter e.stack
  /-- Only results give numbers back. -/
  words : ∀ text, StackEntry.word text ∈ e.stack → ¬ GivesBack stem text

namespace Evaluation

variable {stem : String} {operation : Operation} {arity : Nat}

theorem orderly_start : Orderly stem start := ⟨trivial, fun _ h => by cases h⟩

/-- After the top entry is taken, the counter still lies above the numbers below. -/
theorem numbered_resolve {e : Evaluation} {entry : StackEntry}
    (hn : Numbered stem e.counter (entry :: e.stack))
    (hw : ∀ text, entry = .word text → ¬ GivesBack stem text) :
    Numbered stem (e.resolve stem entry.text).2.counter e.stack := by
  by_cases hg : GivesBack stem entry.text
  · rw [resolve_of_givesBack hg]
    cases entry with
    | word text => exact absurd hg (hw text rfl)
    | result node name =>
      obtain ⟨number, hlt, -, hbelow⟩ := hn
      exact hbelow.mono (Nat.le_sub_one_of_lt hlt)
  · rw [resolve_counter_of_not_givesBack hg]
    exact hn.tail

theorem takeOperand_orderly {e : Evaluation} (h : Orderly stem e) (taken : List Operand) :
    Orderly stem (e.takeOperand stem operation arity taken).2 := by
  cases hs : e.stack with
  | nil =>
    rw [takeOperand_nil hs]
    exact ⟨h.numbered, h.words⟩
  | cons entry below =>
    have hn := h.numbered
    have hw := h.words
    rw [hs] at hn hw
    rw [takeOperand_cons hs]
    have hlower : (({ e with stack := below } : Evaluation).resolve stem entry.text).2.stack <:+
        below := resolve_suffix _ _
    constructor
    · refine Numbered.of_suffix ?_ hlower
      exact numbered_resolve (e := { e with stack := below }) hn
        fun text heq => hw text (heq ▸ List.mem_cons_self)
    · exact fun text hmem => hw text (List.mem_cons_of_mem _ (hlower.mem hmem))

theorem takeOperands_orderly {e : Evaluation} (h : Orderly stem e) (count : Nat)
    (taken : List Operand) :
    Orderly stem (e.takeOperands stem operation arity count taken).2 :=
  takeOperands_induct (P := Orderly stem) (fun _ taken h => takeOperand_orderly h taken)
    count taken e h

theorem collectArgs_orderly {e : Evaluation} (h : Orderly stem e) :
    Orderly stem (e.collectArgs stem operation arity).2 :=
  takeOperands_orderly h arity []

/-- An operator gives its result the number of the counter. -/
theorem emit_orderly {e : Evaluation} (h : Orderly stem e) (args : List Operand) :
    Orderly stem (e.emit stem operation args) := by
  constructor
  · exact ⟨e.counter, Nat.lt_succ_self _, rfl, h.numbered⟩
  · intro text hmem
    rcases List.mem_cons.mp hmem with heq | hmem
    · cases heq
    · exact h.words text hmem

theorem push_orderly {e : Evaluation} (h : Orderly stem e) {word : String}
    (hw : ¬ GivesBack stem word) : Orderly stem (e.push (.word word)) := by
  constructor
  · exact h.numbered
  · intro text hmem
    rcases List.mem_cons.mp hmem with heq | hmem
    · cases heq
      exact hw
    · exact h.words text hmem

theorem consume_orderly {catalog : Catalog} {e : Evaluation} (h : Orderly stem e) {word : String}
    (hw : catalog.lookup word .either = none → ¬ GivesBack stem word) :
    Orderly stem (e.consume catalog stem word) := by
  cases hl : catalog.lookup word .either with
  | none =>
    rw [consume_operand hl]
    exact push_orderly h (hw hl)
  | some spec =>
    rw [consume_operator hl]
    exact emit_orderly (collectArgs_orderly h) _

/-- **Reading keeps the numbers in order**, as long as no operand gives back a number that no result
has. -/
theorem readWords_orderly {catalog : Catalog} {e : Evaluation} {words : List String}
    (h : Orderly stem e)
    (hw : ∀ word ∈ words, catalog.lookup word .either = none → ¬ GivesBack stem word) :
    Orderly stem (e.readWords catalog stem words) :=
  readWords_induct (P := Orderly stem) (fun _ word hmem h => consume_orderly h (hw word hmem)) h

end Evaluation

end FormulaChain
