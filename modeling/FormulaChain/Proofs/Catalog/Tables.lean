import FormulaChain.Catalog.Basic
import FormulaChain.Proofs.Outcome
import Mathlib.Data.List.Basic

/-!
# Catalogs that come from tables

What is accepted into a catalog is appended to it: the operator to those registered, its spellings
to the index, all at its position (`register_eq_ok`). So a catalog that was made from tables is well
formed: every spelling leads to an operator, and no operator takes more operands than a node has
slots (`wellFormed_ofTables`).
-/

namespace FormulaChain.Catalog

variable {c c' : Catalog} {spec : OperatorSpec} {table : Domain} {operation : Operation}
  {word : String}

/-- The index holds the spellings and no other words. -/
theorem lookup_index_eq_none_iff : c.index.lookup word = none ↔ word ∉ c.spellings := by
  rw [List.lookup_eq_none_iff, spellings, List.mem_map]
  constructor
  · rintro h ⟨entry, hentry, rfl⟩
    simpa using h entry hentry
  · intro h entry hentry
    have hne : word ≠ entry.1 := fun heq => h ⟨entry, hentry, heq.symm⟩
    simpa using hne

/-- A spelling is entered at the end of the index, if it is new. -/
theorem enterSpelling_eq_ok :
    enterSpelling operation c word = .ok c' ↔
      word ∉ c.spellings ∧ c' = { c with index := c.index ++ [(word, c.specs.length)] } := by
  rw [← lookup_index_eq_none_iff, enterSpelling]
  cases c.index.lookup word with
  | none => simp [eq_comm]
  | some position => cases hfound : c.specs[position]? <;> simp [hfound]

/-- Spellings are entered at the end of the index, all for the next operator, if they are new and
differ from each other. -/
theorem foldlM_enterSpelling_eq_ok {words : List String} :
    words.foldlM (enterSpelling operation) c = .ok c' ↔
      (words.Nodup ∧ ∀ word ∈ words, word ∉ c.spellings) ∧
        c' = { c with index := c.index ++ words.map (·, c.specs.length) } := by
  induction words generalizing c with
  | nil => simp [pure, Except.pure, eq_comm]
  | cons word words ih =>
    have hspellings : spellings { c with index := c.index ++ [(word, c.specs.length)] } =
        c.spellings ++ [word] := by
      simp [spellings]
    simp only [List.foldlM_cons, bind_eq_ok, enterSpelling_eq_ok, ih]
    constructor
    · rintro ⟨_, ⟨hword, rfl⟩, ⟨hnodup, hnew⟩, rfl⟩
      rw [hspellings] at hnew
      refine ⟨⟨List.nodup_cons.mpr ⟨fun hmem => ?_, hnodup⟩, ?_⟩, by simp⟩
      · exact hnew word hmem (by simp)
      · rw [List.forall_mem_cons]
        exact ⟨hword, fun other hother hold => hnew other hother (List.mem_append_left _ hold)⟩
    · rintro ⟨⟨hnodup, hnew⟩, rfl⟩
      rw [List.nodup_cons] at hnodup
      rw [List.forall_mem_cons] at hnew
      refine ⟨_, ⟨hnew.1, rfl⟩, ⟨hnodup.2, fun other hother hold => ?_⟩, by simp⟩
      rw [hspellings, List.mem_append, List.mem_singleton] at hold
      rcases hold with hold | rfl
      · exact hnew.2 other hother hold
      · exact hnodup.1 hother

/-- **What registering an operator does**: it is appended with its spellings, if it stands in the
table of its domain, has an arity of a node and spellings that are all new. -/
theorem register_eq_ok :
    register table c spec = .ok c' ↔
      (spec.domain = table ∧ (1 ≤ spec.arity ∧ spec.arity ≤ 3) ∧ spec.spellings ≠ []) ∧
      (spec.spellings.Nodup ∧ ∀ word ∈ spec.spellings, word ∉ c.spellings) ∧
      c' = ⟨c.specs ++ [spec], c.index ++ spec.spellings.map (·, c.specs.length)⟩ := by
  unfold register
  by_cases hdomain : spec.domain = table
  · by_cases harity : 1 ≤ spec.arity ∧ spec.arity ≤ 3
    · by_cases hspellings : spec.spellings = []
      · rw [if_neg (not_not.mpr hdomain), if_neg (by omega), if_pos hspellings]
        simp [hspellings]
      · rw [if_neg (not_not.mpr hdomain), if_neg (by omega), if_neg hspellings, bind_eq_ok]
        simp only [foldlM_enterSpelling_eq_ok, pure, Except.pure, Except.ok.injEq]
        constructor
        · rintro ⟨_, ⟨hnew, rfl⟩, rfl⟩
          exact ⟨⟨hdomain, harity, hspellings⟩, hnew, rfl⟩
        · rintro ⟨-, hnew, rfl⟩
          exact ⟨_, ⟨hnew, rfl⟩, rfl⟩
    · rw [if_neg (not_not.mpr hdomain), if_pos (by omega)]
      simp [harity]
  · rw [if_pos hdomain]
    simp [hdomain]

/-! ### Well-formed catalogs -/

/-- Every spelling leads to an operator that a node can perform. -/
structure WellFormed (c : Catalog) : Prop where
  /-- Spellings stand for operators of the catalog. -/
  index : ∀ entry ∈ c.index, entry.2 < c.specs.length
  /-- An operator has as many operands as a node can take. -/
  arity : ∀ spec ∈ c.specs, 1 ≤ spec.arity ∧ spec.arity ≤ 3

theorem wellFormed_empty : WellFormed empty := by
  constructor <;> simp [empty]

theorem WellFormed.register (hc : WellFormed c) (h : register table c spec = .ok c') :
    WellFormed c' := by
  obtain ⟨⟨-, harity, -⟩, -, rfl⟩ := register_eq_ok.mp h
  constructor
  · intro entry hentry
    rw [List.length_append, List.length_singleton]
    rcases List.mem_append.mp hentry with hentry | hentry
    · exact Nat.lt_succ_of_lt (hc.index entry hentry)
    · obtain ⟨word, -, rfl⟩ := List.mem_map.mp hentry
      exact Nat.lt_succ_self _
  · intro other hother
    rcases List.mem_append.mp hother with hother | hother
    · exact hc.arity other hother
    · rw [List.mem_singleton.mp hother]
      exact harity

/-- **A catalog that was made from tables is well formed.** -/
theorem wellFormed_ofTables {scalar vector : List OperatorSpec}
    (h : ofTables scalar vector = .ok c) : WellFormed c := by
  have hregister : ∀ table c spec c', WellFormed c → Catalog.register table c spec = .ok c' →
      WellFormed c' := fun _ _ _ _ hc hspec => hc.register hspec
  obtain ⟨c₁, hscalar, hvector⟩ := bind_eq_ok.mp h
  have hc₁ : WellFormed c₁ := foldlM_induct (fun _ _ _ _ => hregister _ _ _ _) wellFormed_empty
    hscalar
  exact foldlM_induct (fun _ _ _ _ => hregister _ _ _ _) hc₁ hvector

/-- The spellings of a well-formed catalog are the words that it finds. -/
theorem WellFormed.lookup_eq_none_iff (hc : WellFormed c) :
    c.lookup word .either = none ↔ word ∉ c.spellings := by
  rw [← lookup_index_eq_none_iff, lookup]
  cases hindex : c.index.lookup word with
  | none => simp
  | some position =>
    obtain ⟨before, after, hsplit, -⟩ := List.lookup_eq_some_iff.mp hindex
    have hlt : position < c.specs.length := hc.index (word, position) (by simp [hsplit])
    simp [List.getElem?_eq_getElem hlt, DomainHint.admits]

theorem mem_specs_of_lookup {hint : DomainHint} (h : c.lookup word hint = some spec) :
    spec ∈ c.specs := by
  obtain ⟨position, -, h⟩ := Option.bind_eq_some_iff.mp h
  obtain ⟨found, hfound, h⟩ := Option.bind_eq_some_iff.mp h
  obtain ⟨-, heq⟩ := Option.ite_none_right_eq_some.mp h
  cases heq
  exact List.mem_of_getElem? hfound

end FormulaChain.Catalog
