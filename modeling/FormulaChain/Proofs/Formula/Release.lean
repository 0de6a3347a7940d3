import FormulaChain.Catalog.Builtin
import FormulaChain.Proofs.Formula.Literal
import FormulaChain.Proofs.Formula.Waiting

/-!
# Words that are taken for results

A number is given back for every name that begins with the stem, also for one that is no result but
a word of the formula. While vector literals are well formed and no such word is taken, the results
that wait have all the numbers below the counter (`Contiguous`). An operator that takes such a word
lets the counter fall below the numbers of the results that it leaves, and gives the name of one of
them to its own (`namesFresh_iff_foreignLast`).
-/

namespace FormulaChain

/-- The names of the numbers below a bound, the greatest first. -/
def namesBelow (stem : String) : Nat → List String
  | 0 => []
  | n + 1 => syntheticName stem n :: namesBelow stem n

theorem mem_namesBelow {stem name : String} {n : Nat} :
    name ∈ namesBelow stem n ↔ ∃ m < n, name = syntheticName stem m := by
  induction n with
  | zero => simp [namesBelow]
  | succ n ih =>
    rw [namesBelow, List.mem_cons, ih]
    constructor
    · rintro (rfl | ⟨m, hlt, rfl⟩)
      · exact ⟨n, Nat.lt_succ_self n, rfl⟩
      · exact ⟨m, hlt.trans (Nat.lt_succ_self n), rfl⟩
    · rintro ⟨m, hlt, rfl⟩
      rcases Nat.lt_succ_iff_lt_or_eq.mp hlt with hlt | rfl
      · exact .inr ⟨m, hlt, rfl⟩
      · exact .inl rfl

theorem syntheticName_mem_namesBelow {stem : String} {m n : Nat} :
    syntheticName stem m ∈ namesBelow stem n ↔ m < n := by
  rw [mem_namesBelow]
  constructor
  · rintro ⟨k, hlt, heq⟩
    exact syntheticName_injective stem heq ▸ hlt
  · exact fun hlt => ⟨m, hlt, rfl⟩

/-- Some word among entries would be taken for a result. -/
def HoldsForeign (stem : String) (entries : List StackEntry) : Prop :=
  ∃ text, .word text ∈ entries ∧ GivesBack stem text

section Foreign

variable {stem : String} {entries more : List StackEntry}

theorem not_holdsForeign_nil : ¬ HoldsForeign stem [] := by
  rintro ⟨text, hmem, -⟩
  cases hmem

theorem holdsForeign_append :
    HoldsForeign stem (entries ++ more) ↔ HoldsForeign stem entries ∨ HoldsForeign stem more := by
  simp only [HoldsForeign, List.mem_append, or_and_right, exists_or]

theorem holdsForeign_word {text : String} :
    HoldsForeign stem (.word text :: entries) ↔
      GivesBack stem text ∨ HoldsForeign stem entries := by
  simp only [HoldsForeign, List.mem_cons, StackEntry.word.injEq, or_and_right, exists_or,
    exists_eq_left]

theorem holdsForeign_result {node : Nat} {name : String} :
    HoldsForeign stem (.result node name :: entries) ↔ HoldsForeign stem entries := by
  simp [HoldsForeign]

theorem not_holdsForeign_of_quiet (h : ∀ entry ∈ entries, ¬ GivesBack stem entry.text) :
    ¬ HoldsForeign stem entries :=
  fun ⟨_, hmem, hg⟩ => h _ hmem hg

end Foreign

namespace Evaluation

variable {stem : String} {operation : Operation} {arity : Nat} {e : Evaluation}

/-! ### Reports -/

theorem noneMalformed_of_concat {catalog : Catalog} {before : List String} {word : String}
    (h : NoneMalformed (e.readWords catalog stem (before ++ [word])).diagnostics) :
    NoneMalformed (e.readWords catalog stem before).diagnostics := by
  rw [readWords_append] at h
  exact h.of_prefix (readWords_diagnostics catalog _ [word])

theorem noneMalformed_left_of_concat {catalog : Catalog} {before : List String} {word : String}
    {spec : OperatorSpec}
    (h : NoneMalformed (e.readWords catalog stem (before ++ [word])).diagnostics)
    (hl : catalog.lookup word .either = some spec) :
    NoneMalformed ((e.readWords catalog stem before).left stem spec).diagnostics := by
  rw [readWords_concat_operator hl] at h
  exact h

/-! ### Taking operands -/

theorem resolve_counter (stem : String) (e : Evaluation) (text : String) :
    (e.resolve stem text).2.counter =
      if GivesBack stem text then e.counter - 1 else e.counter := by
  by_cases h : GivesBack stem text
  · rw [if_pos h, resolve_of_givesBack h]
  · rw [if_neg h, resolve_counter_of_not_givesBack h]

theorem resolve_drops (hplain : PlainStem stem) {text : String}
    (h : NoneMalformed (e.resolve stem text).2.diagnostics) :
    Drops stem e.stack (e.resolve stem text).2.stack := by
  cases hc : withoutClosing? text with
  | none =>
    rw [(resolve_of_not_closing hc).1]
    exact .refl stem e.stack
  | some fused =>
    rw [resolve_vector hc] at h ⊢
    exact hplain.takeVector_drops (noneMalformed_append.mp h).2

/-- An operator that started with a stack has come to a state by taking operands: some results wait
still, and the counter has kept up with them unless a word was taken for a result. -/
structure Takes (stem : String) (stack : List StackEntry) (e : Evaluation) (taken : List StackEntry)
    (waiting : Nat) : Prop where
  /-- What was taken lay above the rest. -/
  stack : stack = taken ++ e.stack
  /-- All numbers below that of a result that waits belong to results that wait. -/
  names : waitingNames e.stack = namesBelow stem waiting
  /-- The counter does not run ahead. -/
  counter_le : e.counter ≤ waiting
  /-- It keeps up if only results gave numbers back. -/
  counter_eq : ¬ HoldsForeign stem taken → e.counter = waiting
  /-- It falls behind otherwise. -/
  counter_lt : HoldsForeign stem taken → waiting = 0 ∨ e.counter < waiting

namespace Takes

variable {stack taken : List StackEntry} {waiting : Nat}

/-- What a literal takes is no result, since results would give their numbers back. -/
theorem waitingNames_eq_nil (hplain : PlainStem stem) {inner : List StackEntry}
    (hquiet : ∀ entry ∈ inner, ¬ GivesBack stem entry.text)
    (hnames : ∀ name ∈ waitingNames inner, name ∈ namesBelow stem waiting) :
    waitingNames inner = [] := by
  refine List.eq_nil_iff_forall_not_mem.mpr fun name hmem => ?_
  obtain ⟨node, hentry⟩ := mem_waitingNames.mp hmem
  obtain ⟨m, -, rfl⟩ := mem_namesBelow.mp (hnames name hmem)
  exact hquiet _ hentry (hplain.givesBack m)

/-- A word is taken, with what lies in it if it closes a literal. -/
theorem of_word (h : Takes stem stack e taken waiting) {e' : Evaluation} {text : String}
    {inner : List StackEntry} (hs : e.stack = .word text :: inner ++ e'.stack)
    (hinner : waitingNames inner = []) (hquiet : ¬ HoldsForeign stem inner)
    (hcounter : e'.counter = if GivesBack stem text then e.counter - 1 else e.counter) :
    Takes stem stack e' (taken ++ .word text :: inner) waiting := by
  have hle := h.counter_le
  have hnames := h.names
  rw [hs, List.cons_append, waitingNames_word, waitingNames_append, hinner] at hnames
  refine ⟨by rw [h.stack, hs, List.append_assoc], hnames, ?_, ?_, ?_⟩
  · split at hcounter <;> omega
  · rw [holdsForeign_append, holdsForeign_word, not_or, not_or]
    rintro ⟨hforeign, hg, -⟩
    rw [hcounter, if_neg hg]
    exact h.counter_eq hforeign
  · rw [holdsForeign_append, holdsForeign_word]
    rintro (hforeign | hg | hforeign)
    · have hlt := h.counter_lt hforeign
      split at hcounter <;> omega
    · rw [if_pos hg] at hcounter
      omega
    · exact absurd hforeign hquiet

/-- A result is taken. -/
theorem of_result (hplain : PlainStem stem) (h : Takes stem stack e taken waiting)
    {e' : Evaluation} {node : Nat} {name : String} {inner : List StackEntry}
    (hs : e.stack = .result node name :: inner ++ e'.stack) (hinner : waitingNames inner = [])
    (hquiet : ¬ HoldsForeign stem inner)
    (hcounter : e'.counter = if GivesBack stem name then e.counter - 1 else e.counter) :
    ∃ waiting', Takes stem stack e' (taken ++ .result node name :: inner) waiting' := by
  have hle := h.counter_le
  have hnames := h.names
  rw [hs, List.cons_append, waitingNames_result, waitingNames_append, hinner] at hnames
  cases waiting with
  | zero => cases hnames
  | succ waiting =>
    obtain ⟨rfl, hrest⟩ := List.cons.inj hnames
    rw [if_pos (hplain.givesBack waiting)] at hcounter
    have hforeign :
        HoldsForeign stem (taken ++ .result node (syntheticName stem waiting) :: inner) ↔
          HoldsForeign stem taken := by
      rw [holdsForeign_append, holdsForeign_result]
      exact or_iff_left hquiet
    refine ⟨waiting, by rw [h.stack, hs, List.append_assoc], hrest, by omega, ?_, ?_⟩
    · rw [hforeign]
      intro hno
      have heq := h.counter_eq hno
      omega
    · rw [hforeign]
      intro hyes
      have hlt := h.counter_lt hyes
      omega

theorem takeOperand (hplain : PlainStem stem) (h : Takes stem stack e taken waiting)
    {args : List Operand}
    (hno : NoneMalformed (e.takeOperand stem operation arity args).2.diagnostics) :
    ∃ taken' waiting',
      Takes stem stack (e.takeOperand stem operation arity args).2 taken' waiting' := by
  cases hs : e.stack with
  | nil =>
    rw [takeOperand_nil hs]
    exact ⟨taken, waiting, h.stack, h.names, h.counter_le, h.counter_eq, h.counter_lt⟩
  | cons entry below =>
    rw [takeOperand_cons hs] at hno ⊢
    have hcounter := resolve_counter stem { e with stack := below } entry.text
    obtain ⟨inner, hinner, hquiet⟩ := resolve_drops (e := { e with stack := below }) hplain hno
    have hstack : e.stack = entry :: inner ++
        (({ e with stack := below } : Evaluation).resolve stem entry.text).2.stack := by
      rw [hs, List.cons_append, ← hinner]
    have hforeign : ¬ HoldsForeign stem inner := not_holdsForeign_of_quiet hquiet
    have hnames : ∀ name ∈ waitingNames inner, name ∈ namesBelow stem waiting := by
      intro name hmem
      rw [← h.names, hstack, List.cons_append]
      obtain ⟨node, hentry⟩ := mem_waitingNames.mp hmem
      exact mem_waitingNames.mpr ⟨node, List.mem_cons_of_mem _ (List.mem_append_left _ hentry)⟩
    have hnone : waitingNames inner = [] := waitingNames_eq_nil hplain hquiet hnames
    cases entry with
    | word text => exact ⟨_, waiting, h.of_word hstack hnone hforeign hcounter⟩
    | result node name => exact ⟨_, h.of_result hplain hstack hnone hforeign hcounter⟩

end Takes

end Evaluation

/-! ### Operators -/

/-- The results that wait have all the numbers below the counter. -/
def Contiguous (stem : String) (e : Evaluation) : Prop :=
  waitingNames e.stack = namesBelow stem e.counter

/-- An operator takes a word of the formula for a result. -/
def TakesForeign (stem : String) (e : Evaluation) (spec : OperatorSpec) : Prop :=
  ∃ taken, e.stack = taken ++ (e.left stem spec).stack ∧ HoldsForeign stem taken

/-- Operators among words that take a word for a result leave no result waiting. -/
def ForeignLast (catalog : Catalog) (stem : String) (words : List String) : Prop :=
  ∀ e spec, Meets catalog stem words e spec → TakesForeign stem e spec →
    waitingNames (e.left stem spec).stack = []

section Operators

variable {catalog : Catalog} {stem : String} {words : List String} {e : Evaluation}
  {spec : OperatorSpec}

/-- An operator that has taken some of its operands has come there by taking operands. -/
theorem exists_takes (hplain : PlainStem stem) (h : Contiguous stem e) (operation : Operation)
    (arity count : Nat)
    (hno : NoneMalformed (e.takeOperands stem operation arity count []).2.diagnostics) :
    ∃ taken waiting, Evaluation.Takes stem e.stack
      (e.takeOperands stem operation arity count []).2 taken waiting := by
  have hstart : Evaluation.Takes stem e.stack e [] e.counter :=
    ⟨rfl, h, le_rfl, fun _ => rfl, fun hforeign => absurd hforeign not_holdsForeign_nil⟩
  refine Evaluation.takeOperands_induct
    (P := fun e' => NoneMalformed e'.diagnostics →
      ∃ taken waiting, Evaluation.Takes stem e.stack e' taken waiting)
    (fun e' args ih hno' => ?_) count [] e (fun _ => ⟨[], e.counter, hstart⟩) hno
  obtain ⟨taken, waiting, htakes⟩ := ih (hno'.of_prefix (Evaluation.takeOperand_diagnostics _ _))
  exact htakes.takeOperand hplain hno'

/-- **One operator**: it gives its result a name that no result has exactly if it takes no word for
a result, or leaves no result. Its result then has the number after those that wait. -/
theorem fresh_iff_of_contiguous (hplain : PlainStem stem) (h : Contiguous stem e)
    (hno : NoneMalformed (e.left stem spec).diagnostics) :
    (syntheticName stem (e.left stem spec).counter ∉ waitingNames (e.left stem spec).stack ↔
      (TakesForeign stem e spec → waitingNames (e.left stem spec).stack = [])) ∧
    (syntheticName stem (e.left stem spec).counter ∉ waitingNames (e.left stem spec).stack →
      Contiguous stem (e.left stem spec)) := by
  obtain ⟨taken, waiting, htakes⟩ : ∃ taken waiting,
      Evaluation.Takes stem e.stack (e.left stem spec) taken waiting :=
    exists_takes hplain h spec.operation spec.arity spec.arity hno
  have hle := htakes.counter_le
  have hforeign : TakesForeign stem e spec ↔ HoldsForeign stem taken := by
    constructor
    · rintro ⟨taken', hstack, hholds⟩
      rwa [List.append_cancel_right (hstack.symm.trans htakes.stack)] at hholds
    · exact fun hholds => ⟨taken, htakes.stack, hholds⟩
  have hnil : namesBelow stem waiting = [] ↔ waiting = 0 := by
    cases waiting <;> simp [namesBelow]
  rw [Contiguous, htakes.names, syntheticName_mem_namesBelow, hforeign, hnil, not_lt]
  constructor
  · constructor
    · intro hge hholds
      have hlt := htakes.counter_lt hholds
      omega
    · intro hzero
      by_cases hholds : HoldsForeign stem taken
      · rw [hzero hholds]
        exact Nat.zero_le _
      · exact (htakes.counter_eq hholds).ge
  · intro hge
    rw [le_antisymm hle hge]

/-- As long as operators give fresh names, all numbers below the counter are in use. -/
theorem contiguous_readWords (hplain : PlainStem stem)
    (hno : NoneMalformed (Evaluation.start.readWords catalog stem words).diagnostics)
    (hfresh : NamesFresh catalog stem words) :
    Contiguous stem (Evaluation.start.readWords catalog stem words) := by
  induction words using List.reverseRecOn with
  | nil => rfl
  | append_singleton before word ih =>
    have hbefore := Evaluation.noneMalformed_of_concat hno
    have hcontiguous := ih hbefore fun e spec h => hfresh e spec (meets_concat.mpr (.inl h))
    cases hl : catalog.lookup word .either with
    | none =>
      rw [Evaluation.readWords_concat_operand hl]
      exact hcontiguous
    | some spec =>
      have hleft := (fresh_iff_of_contiguous hplain hcontiguous
        (Evaluation.noneMalformed_left_of_concat hno hl)).2
        (hfresh _ spec (meets_concat.mpr (.inr ⟨hl, rfl⟩)))
      rw [Evaluation.readWords_concat_operator hl]
      exact congrArg (syntheticName stem _ :: ·) hleft

/-- **When operators give fresh names**: exactly if those that take a word for a result leave no
result waiting. -/
theorem namesFresh_iff_foreignLast (hplain : PlainStem stem)
    (hno : NoneMalformed (Evaluation.start.readWords catalog stem words).diagnostics) :
    NamesFresh catalog stem words ↔ ForeignLast catalog stem words := by
  induction words using List.reverseRecOn with
  | nil =>
    have hnone : ∀ e spec, ¬ Meets catalog stem [] e spec := by
      rintro e spec ⟨before, word, after, hwords, -⟩
      simp at hwords
    exact ⟨fun _ e spec h => absurd h (hnone e spec), fun _ e spec h => absurd h (hnone e spec)⟩
  | append_singleton before word ih =>
    have hbefore := Evaluation.noneMalformed_of_concat hno
    have hlast (hfresh : NamesFresh catalog stem before) {spec : OperatorSpec}
        (hl : catalog.lookup word .either = some spec) :=
      (fresh_iff_of_contiguous hplain (contiguous_readWords hplain hbefore hfresh)
        (Evaluation.noneMalformed_left_of_concat hno hl)).1
    constructor
    · intro h e spec hmeets
      have hfresh : NamesFresh catalog stem before :=
        fun e spec hm => h e spec (meets_concat.mpr (.inl hm))
      rcases meets_concat.mp hmeets with hm | ⟨hl, rfl⟩
      · exact (ih hbefore).mp hfresh e spec hm
      · exact (hlast hfresh hl).mp (h _ spec hmeets)
    · intro h e spec hmeets
      have hfresh : NamesFresh catalog stem before :=
        (ih hbefore).mpr fun e spec hm => h e spec (meets_concat.mpr (.inl hm))
      rcases meets_concat.mp hmeets with hm | ⟨hl, rfl⟩
      · exact hfresh e spec hm
      · exact (hlast hfresh hl).mpr (h _ spec hmeets)

/-- Operators give fresh names if no word that waits is taken for a result. -/
theorem namesFresh_of_not_givesBack
    (h : ∀ word ∈ words, catalog.lookup word .either = none → ¬ GivesBack stem word) :
    NamesFresh catalog stem words := by
  rintro e spec ⟨before, operator, after, rfl, -, rfl⟩ hmem
  have horderly : Orderly stem (Evaluation.start.readWords catalog stem before) :=
    Evaluation.readWords_orderly Evaluation.orderly_start
      fun word hword => h word (List.mem_append_left _ hword)
  obtain ⟨node, hentry⟩ := mem_waitingNames.mp hmem
  exact (Evaluation.collectArgs_orderly horderly).numbered.name_ne hentry rfl

/-- **When waiting results have different names**, for every formula: exactly if no operator gives
its result the name of a result that waits, nor does the result arrow. No operator does so as long
as no operand of the formula is read as a name that begins with the stem. If the stem is plain and
vector literals are well formed, then no operator does so exactly if every operator that takes such
an operand leaves no result waiting. -/
theorem keepsApart_iff (catalog : Catalog) (stem : String) (words : List String) :
    (KeepsApart catalog stem words ↔
      NamesFresh catalog stem (words.takeWhile (· ≠ resultArrow)) ∧
        ∀ name ∈ (Plan.ofWords catalog stem words).finalName,
          name ∉ (waitingNames (Plan.evaluationBefore catalog stem words).stack).tail) ∧
    ((∀ word ∈ words.takeWhile (· ≠ resultArrow), catalog.lookup word .either = none →
        ¬ GivesBack stem word) →
      NamesFresh catalog stem (words.takeWhile (· ≠ resultArrow))) ∧
    (PlainStem stem → NoneMalformed (Plan.evaluationBefore catalog stem words).diagnostics →
      (NamesFresh catalog stem (words.takeWhile (· ≠ resultArrow)) ↔
        ForeignLast catalog stem (words.takeWhile (· ≠ resultArrow)))) :=
  ⟨keepsApart_iff_namesFresh, namesFresh_of_not_givesBack, namesFresh_iff_foreignLast⟩

/-- An attribute under another name leaves the results of a formula apart. One that begins with the
stem is taken by the second sine, which leaves the first one waiting. -/
theorem keepsApart_iff_attributes :
    KeepsApart .builtin "mf_temp" (tokenize "4 5 * area sin + -> total") ∧
      ¬ ForeignLast .builtin "mf_temp"
        ((tokenize "1 sin mf_tempx sin +").takeWhile (· ≠ resultArrow)) := by
  constructor
  · obtain ⟨hapart, hquiet, -⟩ :=
      keepsApart_iff .builtin "mf_temp" (tokenize "4 5 * area sin + -> total")
    exact hapart.mpr ⟨hquiet (by decide +kernel), by decide +kernel⟩
  · obtain ⟨-, -, hforeign⟩ :=
      keepsApart_iff .builtin "mf_temp" (tokenize "1 sin mf_tempx sin +")
    have hplain : PlainStem "mf_temp" :=
      plainStem_of_mem (c := '_') (by decide) (by decide) (by decide) (by decide)
    have hwords : (tokenize "1 sin mf_tempx sin +").takeWhile (· ≠ resultArrow) =
        ["1", "sin", "mf_tempx"] ++ "sin" :: ["+"] := by
      decide +kernel
    obtain ⟨hreports, spec, hspec, htwice⟩ : (Plan.evaluationBefore .builtin "mf_temp"
          (tokenize "1 sin mf_tempx sin +")).diagnostics = [] ∧
        ∃ spec ∈ Catalog.builtin.lookup "sin" .either,
          syntheticName "mf_temp" ((Evaluation.start.readWords .builtin "mf_temp"
              ["1", "sin", "mf_tempx"]).left "mf_temp" spec).counter ∈
            waitingNames ((Evaluation.start.readWords .builtin "mf_temp"
              ["1", "sin", "mf_tempx"]).left "mf_temp" spec).stack := by
      decide +kernel
    rw [← hforeign hplain (noneMalformed_of_eq_nil hreports)]
    exact fun hfresh => hfresh _ spec ⟨_, _, _, hwords, hspec, rfl⟩ htwice

/-- An attribute that begins with the stem is taken for a result: the second sine gets the name of
the first, which the sum is still to read. -/
theorem not_keepsApart_of_attribute :
    Settings.isValid ⟨"1 sin mf_tempx sin +", "mf_temp", true⟩ = true ∧
      ¬ KeepsApart .builtin "mf_temp" (tokenize "1 sin mf_tempx sin +") := by
  refine ⟨by decide, fun h => ?_⟩
  have hprefix : ["1", "sin", "mf_tempx", "sin"] <+:
      (tokenize "1 sin mf_tempx sin +").takeWhile (· ≠ resultArrow) := by
    decide +kernel
  have hnodup := h.reading _ hprefix _ List.suffix_rfl
  have hnames : namesOf
      (Evaluation.start.readWords .builtin "mf_temp" ["1", "sin", "mf_tempx", "sin"]).steps
      (Evaluation.start.readWords .builtin "mf_temp" ["1", "sin", "mf_tempx", "sin"]).stack =
        ["mf_temp", "mf_temp"] := by
    decide +kernel
  rw [hnames] at hnodup
  exact absurd hnodup (by decide)

end Operators

end FormulaChain
