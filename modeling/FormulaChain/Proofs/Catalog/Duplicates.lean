import FormulaChain.Proofs.Catalog.Acceptance

/-!
# Spellings that show up twice

Two tables list spellings one after the other, operator by operator. A spelling recurs if it is the
first that was listed before, with nothing else wrong up to there (`Recurs`). If an operator in
front has it, it is reported as a duplicate of that operator
(`ofTables_eq_duplicateSpelling_iff`). If the operator at hand lists it twice, its position in the
index is one where no operator stands yet (`ofTables_eq_indexOutOfRange_iff`). So duplicates are
reported, and no position is out of range, exactly if what recurs does not recur within one operator
(`reportsDuplicates_iff`).
-/

namespace FormulaChain.Catalog

variable {scalar vector : List OperatorSpec} {front : List (Domain × OperatorSpec)}
  {spec : OperatorSpec} {before : List String} {word : String}

/-- The spellings of operators, in the order of the operators. -/
def listed (front : List (Domain × OperatorSpec)) : List String :=
  front.flatMap (·.2.spellings)

theorem mem_listed : word ∈ listed front ↔ ∃ first ∈ front.map (·.2), word ∈ first.spellings := by
  rw [listed, List.mem_flatMap]
  constructor
  · rintro ⟨entry, hentry, hword⟩
    exact ⟨entry.2, List.mem_map_of_mem hentry, hword⟩
  · rintro ⟨first, hfirst, hword⟩
    obtain ⟨entry, hentry, rfl⟩ := List.mem_map.mp hfirst
    exact ⟨entry, hentry, hword⟩

/-- An operator behind `front` lists a spelling behind `before` that was listed already; up to
there nothing is wrong with the tables. -/
structure Recurs (scalar vector : List OperatorSpec) (front : List (Domain × OperatorSpec))
    (spec : OperatorSpec) (before : List String) (word : String) : Prop where
  /-- The operator stands behind those in front, and nothing but its spellings can be wrong. -/
  placed : ∃ table back, placed scalar vector = front ++ (table, spec) :: back ∧ Sound table spec
  /-- It lists the spelling. -/
  spelled : ∃ after, spec.spellings = before ++ word :: after
  /-- Nothing but their spellings can be wrong with the operators in front. -/
  sound : ∀ entry ∈ front, Sound entry.1 entry.2
  /-- All spellings before differ. -/
  nodup : (listed front ++ before).Nodup
  /-- The spelling is one of them. -/
  again : word ∈ listed front ++ before

/-- Operators with spellings that all differ fit together, and none repeats a spelling. -/
theorem sound_and_nodup_iff :
    ((∀ entry ∈ front, Sound entry.1 entry.2) ∧ (listed front ++ before).Nodup) ↔
      (Fits front ∧ ∀ entry ∈ front, entry.2.spellings.Nodup) ∧
        before.Nodup ∧ ∀ other ∈ front.map (·.2), other.spellings.Disjoint before := by
  have hapart : Apart (front.map (·.2)) ↔
      front.Pairwise (Function.onFun List.Disjoint (·.2.spellings)) := List.pairwise_map
  have hnew : (listed front).Disjoint before ↔
      ∀ other ∈ front.map (·.2), other.spellings.Disjoint before := by
    constructor
    · exact fun h other hother word hword => h (mem_listed.mpr ⟨other, hother, hword⟩)
    · intro h word hword
      obtain ⟨other, hother, hword⟩ := mem_listed.mp hword
      exact h other hother hword
  rw [List.nodup_append', hnew, listed, List.nodup_flatMap, ← hapart]
  constructor
  · rintro ⟨hsound, ⟨hnodup, hapart⟩, hbefore, hnew⟩
    exact ⟨⟨⟨hsound, hapart⟩, hnodup⟩, hbefore, hnew⟩
  · rintro ⟨⟨⟨hsound, hapart⟩, hnodup⟩, hbefore, hnew⟩
    exact ⟨hsound, ⟨hnodup, hapart⟩, hbefore, hnew⟩

/-- **Which duplicates are reported**: a spelling that recurs behind the operator that has it. -/
theorem ofTables_eq_duplicateSpelling_iff {first second : Operation} :
    ofTables scalar vector = .error (.duplicateSpelling word first second) ↔
      ∃ front spec before, Recurs scalar vector front spec before word ∧
        (∃ earlier ∈ front.map (·.2), word ∈ earlier.spellings ∧ earlier.operation = first) ∧
        spec.operation = second := by
  rw [ofTables_eq_error]
  constructor
  · rintro ⟨front, table, spec, back, hplaced, hfront, hoffends | hrepeats⟩
    · cases hoffends with
      | duplicate hsound hsplit hnodup hnew hfirst hword =>
        obtain ⟨hall, hlisted⟩ := sound_and_nodup_iff.mpr ⟨hfront, hnodup, hnew⟩
        have hagain : word ∈ listed front := mem_listed.mpr ⟨_, hfirst, hword⟩
        exact ⟨front, spec, _, ⟨⟨table, back, hplaced, hsound⟩, ⟨_, hsplit⟩, hall, hlisted,
          List.mem_append_left _ hagain⟩, ⟨_, hfirst, hword, rfl⟩, rfl⟩
    · cases hrepeats
  · rintro ⟨front, spec, before, hrecurs, ⟨earlier, hearlier, hword, rfl⟩, rfl⟩
    obtain ⟨table, back, hplaced, hsound⟩ := hrecurs.placed
    obtain ⟨after, hsplit⟩ := hrecurs.spelled
    obtain ⟨hfront, hnodup, hnew⟩ := sound_and_nodup_iff.mp ⟨hrecurs.sound, hrecurs.nodup⟩
    exact ⟨front, table, spec, back, hplaced, hfront,
      .inl (.duplicate hsound hsplit hnodup hnew hearlier hword)⟩

/-- **When a position is out of range**: for a spelling that recurs within its operator. -/
theorem ofTables_eq_indexOutOfRange_iff {position : Nat} :
    ofTables scalar vector = .error (.indexOutOfRange word position) ↔
      ∃ front spec before, Recurs scalar vector front spec before word ∧ word ∈ before ∧
        position = front.length := by
  rw [ofTables_eq_error]
  constructor
  · rintro ⟨front, table, spec, back, hplaced, hfront, hoffends | hrepeats⟩
    · cases hoffends
    · cases hrepeats with
      | intro hsound hsplit hnodup hnew hword =>
        obtain ⟨hall, hlisted⟩ := sound_and_nodup_iff.mpr ⟨hfront, hnodup, hnew⟩
        exact ⟨front, spec, _, ⟨⟨table, back, hplaced, hsound⟩, ⟨_, hsplit⟩, hall, hlisted,
          List.mem_append_right _ hword⟩, hword, List.length_map _⟩
  · rintro ⟨front, spec, before, hrecurs, hword, rfl⟩
    obtain ⟨table, back, hplaced, hsound⟩ := hrecurs.placed
    obtain ⟨after, hsplit⟩ := hrecurs.spelled
    obtain ⟨hfront, hnodup, hnew⟩ := sound_and_nodup_iff.mp ⟨hrecurs.sound, hrecurs.nodup⟩
    rw [← List.length_map (f := Prod.snd)]
    exact ⟨front, table, spec, back, hplaced, hfront,
      .inr (.intro hsound hsplit hnodup hnew hword)⟩

/-- Duplicates of two tables are reported, whichever operators list them. -/
structure ReportsDuplicates (scalar vector : List OperatorSpec) : Prop where
  /-- No operator is looked up where none stands. -/
  inRange : ∀ word position, ofTables scalar vector ≠ .error (.indexOutOfRange word position)
  /-- A spelling that shows up twice, with no other defect before it, is reported. -/
  reported : ∀ front spec before word, Recurs scalar vector front spec before word →
    ∃ first second, ofTables scalar vector = .error (.duplicateSpelling word first second)

/-- **When duplicates are reported**, for all tables: exactly if what shows up twice, with no other
defect before it, does not do so within one operator. Then the operations in the report are that of
the operator in front which has the spelling and that of the operator which lists it again; in the
other case the position looked up is the one where the operator will stand. No operator is looked up
out of range if none repeats a spelling of its own. -/
theorem reportsDuplicates_iff (scalar vector : List OperatorSpec) :
    (ReportsDuplicates scalar vector ↔
      ∀ front spec before word, Recurs scalar vector front spec before word → word ∉ before) ∧
    (∀ word first second,
      ofTables scalar vector = .error (.duplicateSpelling word first second) ↔
        ∃ front spec before, Recurs scalar vector front spec before word ∧
          (∃ earlier ∈ front.map (·.2), word ∈ earlier.spellings ∧ earlier.operation = first) ∧
          spec.operation = second) ∧
    (∀ word position, ofTables scalar vector = .error (.indexOutOfRange word position) ↔
      ∃ front spec before, Recurs scalar vector front spec before word ∧ word ∈ before ∧
        position = front.length) ∧
    ((∀ spec ∈ scalar ++ vector, spec.spellings.Nodup) → ReportsDuplicates scalar vector) := by
  have hiff : ReportsDuplicates scalar vector ↔
      ∀ front spec before word, Recurs scalar vector front spec before word → word ∉ before := by
    constructor
    · intro h front spec before word hrecurs hword
      exact h.inRange word _ (ofTables_eq_indexOutOfRange_iff.mpr
        ⟨front, spec, before, hrecurs, hword, rfl⟩)
    · refine fun h => ⟨fun word position herror => ?_, fun front spec before word hrecurs => ?_⟩
      · obtain ⟨front, spec, before, hrecurs, hword, -⟩ := ofTables_eq_indexOutOfRange_iff.mp herror
        exact h front spec before word hrecurs hword
      · have hlisted := (List.mem_append.mp hrecurs.again).resolve_right (h _ _ _ _ hrecurs)
        obtain ⟨earlier, hearlier, hword⟩ := mem_listed.mp hlisted
        exact ⟨earlier.operation, spec.operation, ofTables_eq_duplicateSpelling_iff.mpr
          ⟨front, spec, before, hrecurs, ⟨earlier, hearlier, hword, rfl⟩, rfl⟩⟩
  refine ⟨hiff, fun _ _ _ => ofTables_eq_duplicateSpelling_iff,
    fun _ _ => ofTables_eq_indexOutOfRange_iff, fun hnodup => hiff.mpr ?_⟩
  intro front spec before word hrecurs hword
  obtain ⟨table, back, hplaced, -⟩ := hrecurs.placed
  obtain ⟨after, hsplit⟩ := hrecurs.spelled
  have hmem : spec ∈ scalar ++ vector := by
    rw [← map_placed, hplaced]
    simp
  have hspellings := hnodup spec hmem
  rw [hsplit] at hspellings
  exact (List.nodup_append.mp hspellings).2.2 word hword word List.mem_cons_self rfl

/-- A sine that lists `sin` twice is not reported: the position looked up for the second `sin` is
the one where the sine is to stand. -/
theorem not_reportsDuplicates_of_sine :
    ofTables [⟨["sin", "sin"], .scalar .sine, 1⟩] [] = .error (.indexOutOfRange "sin" 0) ∧
      ¬ ReportsDuplicates [⟨["sin", "sin"], .scalar .sine, 1⟩] [] := by
  have hpanics : ofTables [⟨["sin", "sin"], .scalar .sine, 1⟩] [] =
      .error (.indexOutOfRange "sin" 0) := by
    decide
  exact ⟨hpanics, fun h => h.inRange "sin" 0 hpanics⟩

end FormulaChain.Catalog
