import FormulaChain.Proofs.Catalog.Tables
import Mathlib.Data.List.Nodup
import Mathlib.Data.List.Induction
import Mathlib.Data.List.Pairwise

/-!
# Which tables make a catalog

The catalog of some operators is determined by their list (`ofSpecs`): its index has the spellings
of each operator at the operator's position, and finds for a word the first operator spelled so.
Registering an operator extends that list, or fails with the first defect the operator has beside
those before it (`register_eq_error`). So two tables make a catalog exactly if all their operators
fit together, and are refused for the first one that does not (`ofTables_agrees`).

An operator that lists a spelling twice is the exception. The second occurrence finds the first in
the index, at a position where the operator itself does not stand yet (`Repeats`).
-/

namespace FormulaChain.Catalog

variable {c : Catalog} {earlier specs : List OperatorSpec} {spec : OperatorSpec} {table : Domain}
  {operation : Operation} {word : String} {error : CatalogError}

/-! ### Catalogs of lists -/

/-- The catalog of some operators in the order of their registration. -/
def ofSpecs (specs : List OperatorSpec) : Catalog :=
  ⟨specs, specs.zipIdx.flatMap fun entry => entry.1.spellings.map (·, entry.2)⟩

@[simp]
theorem specs_ofSpecs (specs : List OperatorSpec) : (ofSpecs specs).specs = specs := rfl

theorem ofSpecs_concat (earlier : List OperatorSpec) (spec : OperatorSpec) :
    ofSpecs (earlier ++ [spec]) =
      ⟨earlier ++ [spec], (ofSpecs earlier).index ++ spec.spellings.map (·, earlier.length)⟩ := by
  simp [ofSpecs, List.zipIdx_append]

/-- Its spellings are those of the operators, in order. -/
@[simp]
theorem spellings_ofSpecs (specs : List OperatorSpec) :
    (ofSpecs specs).spellings = specs.flatMap (·.spellings) := by
  induction specs using List.reverseRecOn with
  | nil => rfl
  | append_singleton specs spec ih =>
    rw [ofSpecs_concat, spellings, List.map_append, List.flatMap_append, ← ih]
    simp [spellings, Function.comp_def]

/-- The spellings of one operator all lead to its position. -/
theorem lookup_map_position (words : List String) (position : Nat) :
    (words.map (·, position)).lookup word = if word ∈ words then some position else none := by
  induction words with
  | nil => rfl
  | cons first words ih =>
    rw [List.map_cons, List.lookup_cons, ih]
    by_cases h : word = first
    · simp [h]
    · simp [h, beq_false_of_ne h]

/-- The first operator that is spelled so. -/
def firstSpelled (specs : List OperatorSpec) (word : String) : Option OperatorSpec :=
  specs.find? fun spec => decide (word ∈ spec.spellings)

theorem of_firstSpelled (h : firstSpelled specs word = some spec) :
    spec ∈ specs ∧ word ∈ spec.spellings := by
  have hword := List.find?_some h
  exact ⟨List.mem_of_find?_eq_some h, of_decide_eq_true hword⟩

/-- A word leads to the position of the first operator that is spelled so. -/
theorem lookup_index_ofSpecs (specs : List OperatorSpec) :
    (ofSpecs specs).index.lookup word =
      specs.findIdx? fun spec => decide (word ∈ spec.spellings) := by
  induction specs using List.reverseRecOn with
  | nil => rfl
  | append_singleton specs spec ih =>
    rw [ofSpecs_concat, List.lookup_append, ih, lookup_map_position, List.findIdx?_append]
    by_cases h : word ∈ spec.spellings <;> simp [h, List.findIdx?_cons]

/-- No two operators of a list share a spelling. -/
def Apart (specs : List OperatorSpec) : Prop :=
  specs.Pairwise fun first second => first.spellings.Disjoint second.spellings

/-- Among operators that share no spelling a word has no other operator than the first. -/
theorem Apart.firstSpelled_eq_some_iff (h : Apart specs) :
    firstSpelled specs word = some spec ↔ spec ∈ specs ∧ word ∈ spec.spellings := by
  refine ⟨of_firstSpelled, ?_⟩
  rintro ⟨hspec, hword⟩
  cases hfound : firstSpelled specs word with
  | none =>
    have hnone := List.find?_eq_none.mp hfound spec hspec
    exact absurd (decide_eq_true hword) hnone
  | some first =>
    obtain ⟨hfirst, hshared⟩ := of_firstSpelled hfound
    have hsymm : Std.Symm fun first second : OperatorSpec =>
        first.spellings.Disjoint second.spellings :=
      ⟨fun _ _ h _ hsecond hfirst => h hfirst hsecond⟩
    by_contra hne
    exact List.Pairwise.forall h hfirst hspec (fun heq => hne (congrArg some heq)) hshared hword

/-- **What a look-up finds**: the operator that is spelled so, if the hint admits it. -/
theorem Apart.lookup_eq_some_iff (h : Apart specs) {hint : DomainHint} :
    (ofSpecs specs).lookup word hint = some spec ↔
      (spec ∈ specs ∧ word ∈ spec.spellings) ∧ hint.admits spec.domain = true := by
  have hlookup : (ofSpecs specs).lookup word hint =
      (firstSpelled specs word).bind fun spec =>
        if hint.admits spec.domain then some spec else none := by
    rw [firstSpelled, List.find?_eq_bind_findIdx?_getElem?, ← lookup_index_ofSpecs,
      Option.bind_assoc]
    rfl
  simp only [hlookup, Option.bind_eq_some_iff, h.firstSpelled_eq_some_iff,
    Option.ite_none_right_eq_some, Option.some.injEq]
  constructor
  · rintro ⟨_, hfound, hadmits, rfl⟩
    exact ⟨hfound, hadmits⟩
  · rintro ⟨hfound, hadmits⟩
    exact ⟨spec, hfound, hadmits, rfl⟩

/-! ### Entering the spellings of an operator -/

theorem forall_notMem_spellings_iff {words : List String} :
    (∀ word ∈ words, word ∉ (ofSpecs earlier).spellings) ↔
      ∀ other ∈ earlier, other.spellings.Disjoint words := by
  simp only [spellings_ofSpecs, List.mem_flatMap, not_exists, not_and]
  exact ⟨fun h other hother word hold hword => h word hword other hother hold,
    fun h word hword other hother hold => h other hother hold hword⟩

/-- Entering a spelling fails if an operator has it already, registered or about to be. -/
theorem enterSpelling_eq_error {before : List String} :
    enterSpelling operation { ofSpecs earlier with
        index := (ofSpecs earlier).index ++ before.map (·, earlier.length) } word = .error error ↔
      (∃ first, firstSpelled earlier word = some first ∧
        error = .duplicateSpelling word first.operation operation) ∨
      firstSpelled earlier word = none ∧ word ∈ before ∧
        error = .indexOutOfRange word earlier.length := by
  rw [enterSpelling, List.lookup_append, lookup_index_ofSpecs, lookup_map_position]
  rw [firstSpelled, List.find?_eq_bind_findIdx?_getElem?]
  cases hposition : earlier.findIdx? fun spec => decide (word ∈ spec.spellings) with
  | some position =>
    have hlt : position < earlier.length := (List.findIdx?_eq_some_iff_getElem.mp hposition).1
    simp [List.getElem?_eq_getElem hlt, eq_comm]
  | none =>
    by_cases h : word ∈ before <;> simp [h, eq_comm]

/-- Entering spellings fails at the first of them that is not new. -/
theorem foldlM_enterSpelling_eq_error {words : List String} :
    words.foldlM (enterSpelling operation) (ofSpecs earlier) = .error error ↔
      ∃ before word after, words = before ++ word :: after ∧
        (before.Nodup ∧ ∀ other ∈ earlier, other.spellings.Disjoint before) ∧
        ((∃ first, firstSpelled earlier word = some first ∧
          error = .duplicateSpelling word first.operation operation) ∨
        firstSpelled earlier word = none ∧ word ∈ before ∧
          error = .indexOutOfRange word earlier.length) := by
  simp only [foldlM_eq_error, foldlM_enterSpelling_eq_ok, forall_notMem_spellings_iff]
  constructor
  · rintro ⟨before, word, after, _, hsplit, ⟨hnew, rfl⟩, hfails⟩
    exact ⟨before, word, after, hsplit, hnew, enterSpelling_eq_error.mp hfails⟩
  · rintro ⟨before, word, after, hsplit, hnew, hfails⟩
    exact ⟨before, word, after, _, hsplit, ⟨hnew, rfl⟩, enterSpelling_eq_error.mpr hfails⟩

/-! ### Registering an operator -/

/-- What an operator must have of its own: the table of its domain, an arity of a node, and a
spelling. -/
structure Sound (table : Domain) (spec : OperatorSpec) : Prop where
  /-- It stands in the table of its domain. -/
  table : spec.domain = table
  /-- It takes as many operands as a node can. -/
  arity : 1 ≤ spec.arity ∧ spec.arity ≤ 3
  /-- It has a spelling. -/
  spelled : spec.spellings ≠ []

/-- The first defect of an operator beside those before it, in the order of the checks. -/
inductive Offends (earlier : List OperatorSpec) (table : Domain) (spec : OperatorSpec) :
    CatalogError → Prop where
  /-- It stands in the table of the other domain. -/
  | wrongTable (hdomain : spec.domain ≠ table) :
      Offends earlier table spec (.wrongTable spec.operation table)
  /-- No node takes so many operands. -/
  | invalidArity (hdomain : spec.domain = table) (harity : ¬ (1 ≤ spec.arity ∧ spec.arity ≤ 3)) :
      Offends earlier table spec (.invalidArity spec.operation spec.arity)
  /-- It has no spelling. -/
  | noSpellings (hdomain : spec.domain = table) (harity : 1 ≤ spec.arity ∧ spec.arity ≤ 3)
      (hspellings : spec.spellings = []) :
      Offends earlier table spec (.noSpellings spec.operation)
  /-- An operator before it has one of its spellings; those before this spelling are new. -/
  | duplicate {before after : List String} {word : String} {first : OperatorSpec}
      (hsound : Sound table spec) (hsplit : spec.spellings = before ++ word :: after)
      (hnodup : before.Nodup) (hnew : ∀ other ∈ earlier, other.spellings.Disjoint before)
      (hfirst : first ∈ earlier) (hword : word ∈ first.spellings) :
      Offends earlier table spec (.duplicateSpelling word first.operation spec.operation)

/-- An operator repeats one of its own spellings before it takes one of another operator. -/
inductive Repeats (earlier : List OperatorSpec) (table : Domain) (spec : OperatorSpec) :
    CatalogError → Prop where
  | intro {before after : List String} {word : String}
      (hsound : Sound table spec) (hsplit : spec.spellings = before ++ word :: after)
      (hnodup : before.Nodup) (hnew : ∀ other ∈ earlier, other.spellings.Disjoint before)
      (hword : word ∈ before) :
      Repeats earlier table spec (.indexOutOfRange word earlier.length)

/-- An operator that repeats no spelling does not run into itself. -/
theorem not_repeats_of_nodup (h : spec.spellings.Nodup) : ¬ Repeats earlier table spec error := by
  rintro ⟨-, hsplit, -, -, hword⟩
  rw [hsplit] at h
  exact (List.nodup_append.mp h).2.2 _ hword _ List.mem_cons_self rfl

/-- **When an operator joins those before it.** -/
theorem register_ofSpecs_eq_ok :
    register table (ofSpecs earlier) spec = .ok c ↔
      Sound table spec ∧ spec.spellings.Nodup ∧
        (∀ other ∈ earlier, other.spellings.Disjoint spec.spellings) ∧
        c = ofSpecs (earlier ++ [spec]) := by
  rw [register_eq_ok, forall_notMem_spellings_iff, ofSpecs_concat]
  constructor
  · rintro ⟨⟨hdomain, harity, hspelled⟩, ⟨hnodup, hnew⟩, hc⟩
    exact ⟨⟨hdomain, harity, hspelled⟩, hnodup, hnew, hc⟩
  · rintro ⟨⟨hdomain, harity, hspelled⟩, hnodup, hnew, hc⟩
    exact ⟨⟨hdomain, harity, hspelled⟩, ⟨hnodup, hnew⟩, hc⟩

/-- A sound operator is refused for its spellings only. -/
theorem register_eq_error_of_sound (h : Sound table spec) :
    register table c spec = .error error ↔
      spec.spellings.foldlM (enterSpelling spec.operation) c = .error error := by
  rw [register, if_neg (not_not.mpr h.table), if_neg (by have := h.arity; omega),
    if_neg h.spelled]
  cases spec.spellings.foldlM (enterSpelling spec.operation) c <;>
    simp [bind, Except.bind, pure, Except.pure]

/-- **Why an operator is refused**: for the first defect that it has beside those before it. -/
theorem register_eq_error (hearlier : Apart earlier) :
    register table (ofSpecs earlier) spec = .error error ↔
      Offends earlier table spec error ∨ Repeats earlier table spec error := by
  constructor
  · intro h
    by_cases hdomain : spec.domain = table
    · by_cases harity : 1 ≤ spec.arity ∧ spec.arity ≤ 3
      · by_cases hspellings : spec.spellings = []
        · rw [register, if_neg (not_not.mpr hdomain), if_neg (by omega), if_pos hspellings] at h
          cases h
          exact .inl (.noSpellings hdomain harity hspellings)
        · have hsound : Sound table spec := ⟨hdomain, harity, hspellings⟩
          rw [register_eq_error_of_sound hsound] at h
          obtain ⟨before, word, after, hsplit, ⟨hnodup, hnew⟩, hfails⟩ :=
            foldlM_enterSpelling_eq_error.mp h
          rcases hfails with ⟨first, hfirst, rfl⟩ | ⟨-, hword, rfl⟩
          · obtain ⟨hmem, hword⟩ := of_firstSpelled hfirst
            exact .inl (.duplicate hsound hsplit hnodup hnew hmem hword)
          · exact .inr (.intro hsound hsplit hnodup hnew hword)
      · rw [register, if_neg (not_not.mpr hdomain), if_pos (by omega)] at h
        cases h
        exact .inl (.invalidArity hdomain harity)
    · rw [register, if_pos hdomain] at h
      cases h
      exact .inl (.wrongTable hdomain)
  · rintro (h | h)
    · cases h with
      | wrongTable hdomain => rw [register, if_pos hdomain]
      | invalidArity hdomain harity =>
        rw [register, if_neg (not_not.mpr hdomain), if_pos (by omega)]
      | noSpellings hdomain harity hspellings =>
        rw [register, if_neg (not_not.mpr hdomain), if_neg (by omega), if_pos hspellings]
      | duplicate hsound hsplit hnodup hnew hfirst hword =>
        rw [register_eq_error_of_sound hsound, foldlM_enterSpelling_eq_error]
        exact ⟨_, _, _, hsplit, ⟨hnodup, hnew⟩,
          .inl ⟨_, hearlier.firstSpelled_eq_some_iff.mpr ⟨hfirst, hword⟩, rfl⟩⟩
    · obtain ⟨hsound, hsplit, hnodup, hnew, hword⟩ := h
      rw [register_eq_error_of_sound hsound, foldlM_enterSpelling_eq_error]
      refine ⟨_, _, _, hsplit, ⟨hnodup, hnew⟩, .inr ⟨?_, hword, rfl⟩⟩
      cases hfound : firstSpelled earlier _ with
      | none => rfl
      | some first =>
        obtain ⟨hfirst, hshared⟩ := of_firstSpelled hfound
        exact absurd hword (hnew first hfirst hshared)

/-! ### Registering tables -/

/-- The operators of two tables in the order of their registration, each with its table. -/
def placed (scalar vector : List OperatorSpec) : List (Domain × OperatorSpec) :=
  scalar.map (.scalar, ·) ++ vector.map (.vector, ·)

/-- Operators that make a catalog: each is sound, and no two share a spelling. -/
structure Fits (entries : List (Domain × OperatorSpec)) : Prop where
  /-- Each stands in the table of its domain, has an arity of a node and a spelling. -/
  sound : ∀ entry ∈ entries, Sound entry.1 entry.2
  /-- No spelling is listed by two. -/
  apart : Apart (entries.map (·.2))

theorem ofTables_eq (scalar vector : List OperatorSpec) :
    ofTables scalar vector = (placed scalar vector).foldlM
      (fun c entry => register entry.1 c entry.2) (ofSpecs []) := by
  rw [placed, List.foldlM_append, List.foldlM_map, ofTables]
  simp only [List.foldlM_map]
  rfl

theorem fits_concat {entries : List (Domain × OperatorSpec)} {entry : Domain × OperatorSpec} :
    Fits (entries ++ [entry]) ↔ Fits entries ∧ Sound entry.1 entry.2 ∧
      ∀ other ∈ entries.map (·.2), other.spellings.Disjoint entry.2.spellings := by
  constructor
  · rintro ⟨hsound, hapart⟩
    rw [List.map_append, Apart, List.pairwise_append] at hapart
    exact ⟨⟨fun other hother => hsound other (List.mem_append_left _ hother), hapart.1⟩,
      hsound entry (by simp), fun other hother => hapart.2.2 other hother _ (by simp)⟩
  · rintro ⟨⟨hsound, hapart⟩, hentry, hnew⟩
    refine ⟨fun other hother => ?_, ?_⟩
    · rcases List.mem_append.mp hother with hother | hother
      · exact hsound other hother
      · rw [List.mem_singleton.mp hother]
        exact hentry
    · rw [List.map_append, Apart, List.pairwise_append]
      refine ⟨hapart, by simp, fun other hother last hlast => ?_⟩
      rw [List.mem_singleton.mp hlast]
      exact hnew other hother

/-- Operators are all registered exactly if they fit together and none repeats a spelling. -/
theorem foldlM_register_eq_ok {entries : List (Domain × OperatorSpec)} :
    entries.foldlM (fun c entry => register entry.1 c entry.2) (ofSpecs []) = .ok c ↔
      (Fits entries ∧ ∀ entry ∈ entries, entry.2.spellings.Nodup) ∧
        c = ofSpecs (entries.map (·.2)) := by
  induction entries using List.reverseRecOn generalizing c with
  | nil =>
    have hfits : Fits [] := ⟨by simp, List.Pairwise.nil⟩
    simp [hfits, pure, Except.pure, eq_comm]
  | append_singleton entries entry ih =>
    simp only [List.foldlM_append, List.foldlM_cons, List.foldlM_nil, bind_pure, bind_eq_ok, ih,
      fits_concat, List.forall_mem_append, List.forall_mem_singleton, List.map_append]
    constructor
    · rintro ⟨_, ⟨⟨hfits, hnodup⟩, rfl⟩, h⟩
      obtain ⟨hsound, hlast, hnew, rfl⟩ := register_ofSpecs_eq_ok.mp h
      exact ⟨⟨⟨hfits, hsound, hnew⟩, hnodup, hlast⟩, rfl⟩
    · rintro ⟨⟨⟨hfits, hsound, hnew⟩, hnodup, hlast⟩, rfl⟩
      exact ⟨_, ⟨⟨hfits, hnodup⟩, rfl⟩, register_ofSpecs_eq_ok.mpr ⟨hsound, hlast, hnew, rfl⟩⟩

/-- **Which error two tables give**: that of the first operator that does not fit. -/
theorem ofTables_eq_error {scalar vector : List OperatorSpec} :
    ofTables scalar vector = .error error ↔ ∃ front table spec back,
      placed scalar vector = front ++ (table, spec) :: back ∧
        (Fits front ∧ ∀ entry ∈ front, entry.2.spellings.Nodup) ∧
        (Offends (front.map (·.2)) table spec error ∨
          Repeats (front.map (·.2)) table spec error) := by
  rw [ofTables_eq]
  simp only [foldlM_eq_error, foldlM_register_eq_ok]
  constructor
  · rintro ⟨front, entry, back, _, hsplit, ⟨hfront, rfl⟩, hfails⟩
    exact ⟨front, entry.1, entry.2, back, hsplit, hfront,
      (register_eq_error hfront.1.apart).mp hfails⟩
  · rintro ⟨front, table, spec, back, hsplit, hfront, hfails⟩
    exact ⟨front, (table, spec), back, _, hsplit, ⟨hfront, rfl⟩,
      (register_eq_error hfront.1.apart).mpr hfails⟩

theorem map_placed (scalar vector : List OperatorSpec) :
    (placed scalar vector).map (·.2) = scalar ++ vector := by
  simp [placed, Function.comp_def]

/-- **What catalogs are made of tables, and what they find**, if no operator repeats a spelling. -/
theorem ofTables_agrees {scalar vector : List OperatorSpec}
    (hnodup : ∀ spec ∈ scalar ++ vector, spec.spellings.Nodup) :
    ((∃ c, ofTables scalar vector = .ok c) ↔ Fits (placed scalar vector)) ∧
      (∀ error, ofTables scalar vector = .error error ↔ ∃ front table spec back,
        placed scalar vector = front ++ (table, spec) :: back ∧ Fits front ∧
          Offends (front.map (·.2)) table spec error) ∧
      ∀ c, ofTables scalar vector = .ok c →
        c.specs = scalar ++ vector ∧
        (c.spellings = (scalar ++ vector).flatMap (·.spellings) ∧ c.spellings.Nodup) ∧
        ∀ word hint spec, c.lookup word hint = some spec ↔
          (spec ∈ scalar ++ vector ∧ word ∈ spec.spellings) ∧
            hint.admits spec.domain = true := by
  have hplaced : ∀ entry ∈ placed scalar vector, entry.2.spellings.Nodup := fun entry hentry => by
    refine hnodup entry.2 ?_
    rw [← map_placed]
    exact List.mem_map_of_mem hentry
  have hok : ∀ c, ofTables scalar vector = .ok c ↔
      Fits (placed scalar vector) ∧ c = ofSpecs (scalar ++ vector) := fun c => by
    rw [ofTables_eq, foldlM_register_eq_ok, map_placed]
    exact ⟨fun h => ⟨h.1.1, h.2⟩, fun h => ⟨⟨h.1, hplaced⟩, h.2⟩⟩
  refine ⟨⟨fun ⟨c, hc⟩ => ((hok c).mp hc).1, fun hfits => ⟨_, (hok _).mpr ⟨hfits, rfl⟩⟩⟩,
    fun error => ?_, fun c hc => ?_⟩
  · rw [ofTables_eq_error]
    constructor
    · rintro ⟨front, table, spec, back, hsplit, ⟨hfits, -⟩, hoffends | hrepeats⟩
      · exact ⟨front, table, spec, back, hsplit, hfits, hoffends⟩
      · have hspec := hplaced (table, spec) (by simp [hsplit])
        exact absurd hrepeats (not_repeats_of_nodup hspec)
    · rintro ⟨front, table, spec, back, hsplit, hfits, hoffends⟩
      exact ⟨front, table, spec, back, hsplit,
        ⟨hfits, fun entry hentry => hplaced entry (by simp [hsplit, hentry])⟩, .inl hoffends⟩
  · obtain ⟨⟨-, hapart⟩, rfl⟩ := (hok c).mp hc
    rw [map_placed] at hapart
    refine ⟨rfl, ⟨spellings_ofSpecs _, ?_⟩, fun word hint spec => hapart.lookup_eq_some_iff⟩
    rw [spellings_ofSpecs, List.nodup_flatMap]
    exact ⟨hnodup, hapart⟩

/-- Two remainders make a catalog if only one is spelled `mod`; otherwise the second is refused. -/
theorem ofTables_agrees_modulo :
    (∃ c, ofTables [⟨["%", "mod"], .scalar .modulo, 2⟩] [⟨["vmod"], .vector .modulo, 2⟩] = .ok c) ∧
    ofTables [⟨["%", "mod"], .scalar .modulo, 2⟩] [⟨["vmod", "mod"], .vector .modulo, 2⟩] =
      .error (.duplicateSpelling "mod" (.scalar .modulo) (.vector .modulo)) := by
  have hscalar : Sound .scalar ⟨["%", "mod"], .scalar .modulo, 2⟩ := ⟨rfl, by decide, by decide⟩
  have hfirst : Fits [(.scalar, ⟨["%", "mod"], .scalar .modulo, 2⟩)] :=
    ⟨by simpa using hscalar, List.pairwise_singleton _ _⟩
  constructor
  · refine (ofTables_agrees (by decide)).1.mpr (fits_concat.mpr ⟨hfirst, ?_, by simp⟩)
    exact ⟨rfl, by decide, by decide⟩
  · refine ((ofTables_agrees (by decide)).2.1 _).mpr
      ⟨_, .vector, ⟨["vmod", "mod"], .vector .modulo, 2⟩, [], rfl, hfirst, ?_⟩
    have hsplit : ["vmod", "mod"] = ["vmod"] ++ "mod" :: [] := rfl
    refine .duplicate ?_ hsplit (List.nodup_singleton _) ?_ List.mem_cons_self ?_
    · exact ⟨rfl, by decide, by decide⟩
    · simp
    · simp

end FormulaChain.Catalog
