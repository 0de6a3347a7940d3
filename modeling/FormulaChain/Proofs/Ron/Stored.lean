import FormulaChain.Proofs.Ron.Text

/-!
# Records are read back from documents

A datum that is read back by its shape (`ReadsBack`) may be the value of a field. A record of which
some fields are stated is read back from its document, on one line or indented, and the fields that
are not stated are absent (`ofChars?_stated`). They matter only when the fields are put in order:
where a shape has substitutes for missing fields, the same documents are read, and the substitutes
stand where nothing was stated (`ofChars?_substitutes`).
-/

namespace FormulaChain

namespace Ron

variable {α β : Type}

/-! ### Items with commas between -/

section Items

variable {item : Reader α} {close : Char} {fuel : Nat} {text start more rest : List Char} {a : α}
  {items : List α}

theorem readItems?_skipBlank (h : skipBlank? text = some start) :
    readItems? item close fuel start = readItems? item close fuel text := by
  cases fuel with
  | zero => rfl
  | succ fuel => rw [readItems?, readItems?, skipBlank?_idem h, h]

theorem readItems?_close (h : skipBlank? text = some (close :: rest)) :
    readItems? item close (fuel + 1) text = some ([], close :: rest) := by
  rw [readItems?, h]
  simp

/-- An item behind which a comma stands is followed by others, or by none. -/
theorem readItems?_comma (hskip : skipBlank? text = some start) (hstart : start.head? ≠ some close)
    (hitem : item start = some (a, ',' :: more))
    (hmore : readItems? item close fuel more = some (items, rest)) :
    readItems? item close (fuel + 1) text = some (a :: items, rest) := by
  have hcomma : skipBlank? (',' :: more) = some (',' :: more) :=
    skipBlank?_cons (by decide) (by decide) more
  cases hblank : skipBlank? more with
  | none =>
    cases fuel with
    | zero => cases hmore
    | succ fuel => rw [readItems?, hblank] at hmore; cases hmore
  | some left =>
    rw [← readItems?_skipBlank hblank] at hmore
    rw [readItems?, hskip]
    simp [hstart, hitem, readComma?, hcomma, hblank, hmore]

theorem readItems?_last (hskip : skipBlank? text = some start) (hstart : start.head? ≠ some close)
    (hitem : item start = some (a, more)) (hmore : skipBlank? more = some (close :: rest))
    (hclose : close ≠ ',') :
    readItems? item close (fuel + 1) text = some ([a], close :: rest) := by
  have hnone : readComma? more = some (false, close :: rest) := by
    rw [readComma?, hmore]
    simp only [Option.bind_eq_bind, Option.bind_some]
    split
    · next heq => exact absurd (List.cons.inj heq).1 hclose
    · rfl
  rw [readItems?, hskip]
  simp [hstart, hitem, hnone]

/-- What all items that can be read have, those of a list have. -/
theorem forall_mem_of_readItems? {P : α → Prop}
    (hitem : ∀ {text a rest}, item text = some (a, rest) → P a)
    (h : readItems? item close fuel text = some (items, rest)) : ∀ a ∈ items, P a := by
  induction fuel generalizing text items rest with
  | zero => cases h
  | succ fuel ih =>
    simp only [readItems?, Option.bind_eq_bind, Option.bind_eq_some_iff] at h
    obtain ⟨start, -, h⟩ := h
    by_cases hclose : start.head? = some close
    · rw [if_pos hclose] at h
      cases h
      exact fun _ ha => nomatch ha
    · rw [if_neg hclose] at h
      simp only [Option.bind_eq_some_iff, Prod.exists] at h
      obtain ⟨a, left, ha, comma, more, -, h⟩ := h
      split at h
      · obtain ⟨⟨others, _⟩, hothers, h⟩ := Option.bind_eq_some_iff.mp h
        cases h
        exact List.forall_mem_cons.mpr ⟨hitem ha, ih hothers⟩
      · split at h
        · cases h
          exact List.forall_mem_singleton.mpr (hitem ha)
        · cases h

end Items

/-! ### Fields of records -/

/-- Reads the value of a field, and gives it if the field is known. -/
def readField? (extensions : List Extension) (depth : Nat) (shapes : List (String × Shape))
    (name : String) : Reader (Option Datum) := fun text =>
  match shapes.find? (·.1 = name) with
  | some (_, shape) =>
    (readDatum? extensions depth shape false text).map fun (d, rest) => (some d, rest)
  | none => (skipValue? extensions depth false text).map fun (_, rest) => (none, rest)

/-- The fields that have a value. -/
def stated (values : List (String × Option Datum)) : List (String × Datum) :=
  values.filterMap fun (name, value) => value.map (name, ·)

/-- Reads a record, and gives the fields that are known as they stand there. -/
def readKnown? (extensions : List Extension) (depth : Nat) (type : String)
    (shapes : List (String × Shape)) (opened : Bool) : Reader (List (String × Datum)) :=
  fun text => do
    let start := if opened then some text else skipTypeName? extensions type text
    let item := readPair? readName? (readField? extensions depth shapes)
    let (values, rest) ← readParenthesized? opened (readAll? item ')') (← skipBlank? (← start))
    return (stated values, rest)

variable {extensions : List Extension} {depth : Nat} {type : String}
  {shapes : List (String × Shape)}

/-- A record is read in two steps: what stands there is read and then arranged. -/
theorem readDatum?_record (fields : List (String × Shape × Option Datum)) (opened : Bool)
    (text : List Char) :
    readDatum? extensions (depth + 2) (.record type fields) opened text =
      (readKnown? extensions depth type (fields.map fun f => (f.1, f.2.1)) opened text).bind
        fun (known, rest) => (arrange? fields known).map fun values => (.record values, rest) := by
  rw [readDatum?]
  simp only [readKnown?]
  -- the readers of a field are one reader, written twice
  generalize hitem : readPair? readName? (readField? extensions depth _) = item
  generalize hinline : readPair? readName? _ = inline
  have hsame : inline = item := by
    rw [← hinline, ← hitem]
    refine congrArg _ (funext fun name => funext fun text => ?_)
    have hfind : (fields.map fun f => (f.1, f.2.1)).find? (·.1 = name) =
        (fields.find? (·.1 = name)).map fun f => (f.1, f.2.1) := List.find?_map ..
    rw [readField?, hfind]
    cases fields.find? (·.1 = name) <;> rfl
  rw [hsame]
  cases opened <;>
    simp only [stated, Option.bind_eq_bind, Option.pure_def, Option.bind_assoc, Option.bind_some,
      Option.map_eq_bind, if_true, if_false, Bool.false_eq_true, Function.comp_def]

/-! ### What is read back -/

/-- A datum that is read back by a shape from its document, on one line or indented, whatever ends
it; the document begins with something that can be seen. -/
structure ReadsBack (depth : Nat) (shape : Shape) (d : Datum) : Prop where
  /-- Nothing is left out before it. -/
  visible (layout : Layout) (rest : List Char) :
    skipBlank? (d.toRon.write layout ++ rest) = some (d.toRon.write layout ++ rest)
  /-- It is read back. -/
  read (layout : Layout) {rest : List Char} (hrest : EndsWord rest) :
    readDatum? [] depth shape false (d.toRon.write layout ++ rest) = some (d, rest)

theorem readsBack_bool (depth : Nat) (value : Bool) : ReadsBack depth .bool (.bool value) where
  visible layout rest := by
    cases value <;> exact skipBlank?_cons (by decide) (by decide) _
  read layout rest hrest := by
    have hread : readBool? ((Datum.truthName value).toList ++ rest) = some (value, rest) := by
      cases value with
      | true => rw [readBool?, Datum.truthName, if_pos rfl, skipWord?_append _ hrest]
      | false =>
        have hother : skipWord? "true" ("false".toList ++ rest) = none := rfl
        rw [readBool?, Datum.truthName, if_neg Bool.false_ne_true, hother]
        dsimp only
        rw [skipWord?_append _ hrest, Option.map_some]
    rw [Datum.toRon, write, readDatum?, hread, Option.map_some]

theorem readsBack_text (depth : Nat) (s : String) : ReadsBack depth .text (.text s) where
  visible layout rest := by
    simp only [Datum.toRon, write, Text.quotedStrictly, Text.quoteWith, String.toList_ofList,
      List.cons_append]
    exact skipBlank?_cons (by decide) (by decide) _
  read layout rest hrest := by
    rw [Datum.toRon, write, readDatum?, readString?_quotedStrictly, Option.map_some]

/-- A field with a name that is known, and with a value that is read back by its shape. -/
structure FieldReadsBack (depth : Nat) (shapes : List (String × Shape)) (field : String × Datum) :
    Prop where
  /-- The name can be written. -/
  name : IsName field.1
  /-- The value is read back by the shape that belongs to the name. -/
  value : ∃ shape, shapes.find? (·.1 = field.1) = some (field.1, shape) ∧
    ReadsBack depth shape field.2

/-- A field is read behind its name. -/
theorem readPair?_write {field : String × Datum} (h : FieldReadsBack depth shapes field)
    (layout : Layout) {rest : List Char} (hrest : EndsWord rest) :
    readPair? readName? (readField? [] depth shapes)
      (field.1.toList ++ ':' :: (layout.blank ++ (field.2.toRon.write layout ++ rest))) =
        some ((field.1, some field.2), rest) := by
  obtain ⟨shape, hshape, hvalue⟩ := h.value
  have hcolon (text : List Char) : skipSign? ':' (':' :: text) = some text := rfl
  rw [readPair?, readName?_append h.name]
  simp only [Option.bind_eq_bind, Option.bind_some, hcolon, skipBlank?_blank, hvalue.visible]
  rw [readField?, hshape]
  simp [hvalue.read layout hrest]

/-- **The fields of a record are read** up to the closing parenthesis. -/
theorem readItems?_writeFields {fields : List (String × Datum)}
    (hfields : ∀ field ∈ fields, FieldReadsBack depth shapes field) (layout : Layout) {fuel : Nat}
    {close rest : List Char} (hfuel : fields.length < fuel) (hclose : EndsWord close)
    (hskip : skipBlank? close = some (')' :: rest)) :
    readItems? (readPair? readName? (readField? [] depth shapes)) ')' fuel
      (writeFields layout (Datum.toRonFields fields) ++ close) =
        some (fields.map fun field => (field.1, some field.2), ')' :: rest) := by
  induction fields generalizing fuel with
  | nil =>
    obtain ⟨fuel, rfl⟩ := Nat.exists_eq_succ_of_ne_zero (Nat.ne_of_gt hfuel)
    exact readItems?_close hskip
  | cons field fields ih =>
    obtain ⟨fuel, rfl⟩ := Nat.exists_eq_succ_of_ne_zero (Nat.ne_zero_of_lt hfuel)
    obtain ⟨hfield, hothers⟩ := List.forall_mem_cons.mp hfields
    have hmore := ih hothers (Nat.lt_of_succ_lt_succ hfuel)
    obtain ⟨hseen, hstart⟩ := hfield.name.visible (':' :: (layout.blank ++
      (field.2.toRon.write layout ++ (layout.comma (Datum.toRonFields fields).isEmpty ++
        (writeFields layout (Datum.toRonFields fields) ++ close)))))
    simp only [Datum.toRonFields, writeFields, List.append_assoc, List.cons_append]
    rw [← skipBlank?_lineBreak layout] at hseen
    rcases comma_cases layout (Datum.toRonFields fields).isEmpty with hcomma | ⟨hlast, hcomma⟩
    · rw [hcomma, List.singleton_append] at hseen hstart ⊢
      exact readItems?_comma hseen hstart (readPair?_write hfield layout
        (endsWord_cons (continuesIdentifier_of_mem_signs (by decide)) _)) hmore
    · -- without a comma the field is the last one
      cases fields with
      | cons other others => cases hlast
      | nil =>
        rw [hcomma] at hseen hstart ⊢
        exact readItems?_last hseen hstart (readPair?_write hfield layout hclose) hskip (by decide)

theorem length_le_length_writeFields (fields : List (String × Datum)) (layout : Layout) :
    fields.length ≤ (writeFields layout (Datum.toRonFields fields)).length := by
  induction fields with
  | nil => exact Nat.le_refl 0
  | cons field fields ih =>
    simp only [Datum.toRonFields, writeFields, List.length_append, List.length_cons]
    omega

theorem skipBlank?_opening (text : List Char) : skipBlank? ('(' :: text) = some ('(' :: text) :=
  skipBlank?_cons (by decide) (by decide) text

theorem skipBlank?_closing (text : List Char) : skipBlank? (')' :: text) = some (')' :: text) :=
  skipBlank?_cons (by decide) (by decide) text

/-- The fields of a record stand in parentheses and are read there. -/
theorem exists_inside {fields : List (String × Datum)}
    (hfields : ∀ field ∈ fields, FieldReadsBack depth shapes field) (layout : Layout)
    (rest : List Char) :
    ∃ inside, (Datum.record fields).toRon.write layout ++ rest = '(' :: inside ∧
      readAll? (readPair? readName? (readField? [] depth shapes)) ')' inside =
        some (fields.map fun field => (field.1, some field.2), ')' :: rest) := by
  cases fields with
  | nil => exact ⟨')' :: rest, rfl, readItems?_close (skipBlank?_closing rest)⟩
  | cons field fields =>
    refine ⟨writeFields layout.deeper (Datum.toRonFields (field :: fields)) ++
      (layout.lineBreak ++ ')' :: rest), ?_, ?_⟩
    · simp [Datum.toRon, Datum.toRonFields, write, tagText]
    · have hlength := length_le_length_writeFields (field :: fields) layout.deeper
      refine readItems?_writeFields hfields layout.deeper ?_ (endsWord_lineBreak layout
        (endsWord_cons (continuesIdentifier_of_mem_signs (by decide)) _)) ?_
      · rw [List.length_append]
        omega
      · rw [skipBlank?_lineBreak, skipBlank?_closing]

/-- **A record is read back** as it stands in its document, on one line or indented. -/
theorem readKnown?_write {fields : List (String × Datum)}
    (hfields : ∀ field ∈ fields, FieldReadsBack depth shapes field) (layout : Layout)
    (rest : List Char) :
    readKnown? [] depth type shapes false ((Datum.record fields).toRon.write layout ++ rest) =
      some (fields, rest) := by
  have hopening (text : List Char) : skipTypeName? [] type ('(' :: text) = some ('(' :: text) := by
    simp [skipTypeName?, continuesIdentifier_of_mem_signs (c := '(') (by decide)]
  have hclosing : skipSign? ')' (')' :: rest) = some rest := rfl
  have hstated : stated (fields.map fun field => (field.1, some field.2)) = fields := by
    simp [stated, List.filterMap_map]
  obtain ⟨inside, hwrite, hread⟩ := exists_inside hfields layout rest
  rw [hwrite, readKnown?, if_neg Bool.false_ne_true, hopening]
  simp only [Option.bind_eq_bind, Option.bind_some, skipBlank?_opening]
  rw [readParenthesized?, if_neg Bool.false_ne_true]
  simp only [readClosed?, hread, Option.bind_eq_bind, Option.bind_some, hclosing, Option.pure_def,
    hstated]

/-- A document without attributes is what it holds. -/
theorem ofChars?_of_visible {text : List Char} (hseen : skipBlank? text = some text)
    (hhash : text.head? ≠ some '#') (shape : Shape) :
    ofChars? shape text = (readDatum? [] greatestDepth shape false text).bind fun (d, rest) =>
      (skipBlank? rest).bind fun rest => if rest = [] then some d else none := by
  rw [ofChars?, readAttributes?, hseen]
  simp only [Option.bind_eq_bind, Option.bind_some, if_neg hhash, Option.pure_def]

/-- What a document holds that is made of a record is arranged from the fields of the record. -/
theorem ofChars?_write {fields : List (String × Shape × Option Datum)}
    {values : List (String × Datum)}
    (hvalues : ∀ value ∈ values,
      FieldReadsBack (greatestDepth - 2) (fields.map fun f => (f.1, f.2.1)) value)
    (layout : Layout) :
    ofChars? (.record type fields) ((Datum.record values).toRon.write layout) =
      (arrange? fields values).map .record := by
  have hdepth : greatestDepth = greatestDepth - 2 + 2 := rfl
  have hread : readKnown? [] (greatestDepth - 2) type _ false
      ((Datum.record values).toRon.write layout ++ []) = some (values, []) :=
    readKnown?_write hvalues layout []
  obtain ⟨inside, hinside, -⟩ := exists_inside hvalues layout []
  rw [List.append_nil] at hread hinside
  rw [ofChars?_of_visible, hdepth, readDatum?_record, hread]
  · rw [Option.bind_some, Option.bind_map]
    cases arrange? fields values <;> rfl
  · rw [hinside, skipBlank?_opening]
  · rw [hinside]
    simp

/-! ### Fields that are missing -/

variable {values : List (String × Option Datum)} {value : String × Option Datum}

theorem stated_cons (value : String × Option Datum) (values : List (String × Option Datum)) :
    stated (value :: values) = (value.2.map (value.1, ·)).toList ++ stated values := by
  obtain ⟨name, _ | d⟩ := value <;> rfl

theorem name_mem_of_mem_stated {field : String × Datum} (h : field ∈ stated values) :
    field.1 ∈ values.map (·.1) := by
  obtain ⟨⟨name, d⟩, hmem, hfield⟩ := List.mem_filterMap.mp h
  obtain ⟨d, rfl, rfl⟩ := Option.map_eq_some_iff.mp hfield
  exact List.mem_map_of_mem hmem

/-- Among fields with different names, a name leads to one value at most. -/
theorem filter_stated (hnames : (values.map (·.1)).Nodup) (h : value ∈ values) :
    (stated values).filter (·.1 = value.1) = (value.2.map (value.1, ·)).toList := by
  induction values with
  | nil => cases h
  | cons first values ih =>
    obtain ⟨hfirst, hothers⟩ := List.nodup_cons.mp hnames
    replace hfirst : first.1 ∉ values.map (·.1) := hfirst
    rw [stated_cons, List.filter_append]
    rcases List.mem_cons.mp h with rfl | hmem
    · have hrest : (stated values).filter (·.1 = value.1) = [] := by
        refine List.filter_eq_nil_iff.mpr fun field hfield heq => hfirst ?_
        exact of_decide_eq_true heq ▸ name_mem_of_mem_stated hfield
      rw [hrest, List.append_nil]
      cases value.2 <;> simp
    · have hne : first.1 ≠ value.1 := by
        intro heq
        rw [heq] at hfirst
        exact hfirst (List.mem_map_of_mem hmem)
      have hskip : (first.2.map (first.1, ·)).toList.filter (·.1 = value.1) = [] := by
        cases first.2 <;> simp [hne]
      rw [hskip, List.nil_append, ih hothers hmem]

/-- The value of a field, given the fields that stand under its name. -/
def onlyValue? (substitute : Option Datum) : List (String × Datum) → Option Datum
  | [] => substitute
  | [(_, d)] => some d
  | _ => none

theorem arrange?_cons (name : String) (shape : Shape) (substitute : Option Datum)
    (fields : List (String × Shape × Option Datum)) (known : List (String × Datum)) :
    arrange? ((name, shape, substitute) :: fields) known =
      (onlyValue? (substitute.or shape.missing?) (known.filter (·.1 = name))).bind fun d =>
        (arrange? fields known).map ((name, d) :: ·) := by
  rw [arrange?, List.mapM_cons, ← arrange?]
  dsimp only
  cases known.filter (·.1 = name) with
  | nil =>
    rw [onlyValue?]
    cases substitute.or shape.missing? <;> cases arrange? fields known <;> rfl
  | cons first others => cases others <;> cases arrange? fields known <;> rfl

/-- Fields of which some are stated are put in order, and where one is not stated its value is
absent. -/
theorem arrange?_stated (hnames : (values.map (·.1)).Nodup) (fields : List (String × Shape))
    (hfields : fields.map (·.1) = values.map (·.1)) :
    arrange? (fields.map fun f => (f.1, f.2, some .absent)) (stated values) =
      some (values.map fun value => (value.1, value.2.getD .absent)) := by
  -- the fields are arranged one after another, from all that is stated
  suffices ∀ (fields : List (String × Shape)) (part : List (String × Option Datum)),
      fields.map (·.1) = part.map (·.1) → (∀ value ∈ part, value ∈ values) →
        arrange? (fields.map fun f => (f.1, f.2, some .absent)) (stated values) =
          some (part.map fun value => (value.1, value.2.getD .absent)) from
    this fields values hfields fun _ h => h
  intro fields part hfields hpart
  induction part generalizing fields with
  | nil => rw [List.map_eq_nil_iff.mp hfields]; rfl
  | cons value part ih =>
    obtain ⟨⟨name, shape⟩, others, rfl, hname, hothers⟩ := List.map_eq_cons_iff.mp hfields
    obtain ⟨hvalue, hrest⟩ := List.forall_mem_cons.mp hpart
    obtain ⟨_, d⟩ := value
    cases hname
    rw [List.map_cons, arrange?_cons, filter_stated hnames hvalue, ih others hothers hrest]
    cases d <;> rfl

/-- **A record is read back of which some fields are stated**, in any layout: the others are
absent. -/
theorem ofChars?_stated {fields : List (String × Shape)} (hnames : (values.map (·.1)).Nodup)
    (hfields : fields.map (·.1) = values.map (·.1))
    (hvalues : ∀ value ∈ stated values, FieldReadsBack (greatestDepth - 2) fields value)
    (layout : Layout) :
    ofChars? (.record type (fields.map fun f => (f.1, f.2, some .absent)))
      ((Datum.record (stated values)).toRon.write layout) =
        some (.record (values.map fun value => (value.1, value.2.getD .absent))) := by
  rw [ofChars?_write, arrange?_stated hnames fields hfields, Option.map_some]
  simpa only [List.map_map, Function.comp_def, Prod.mk.eta, List.map_id'] using hvalues

end Ron

/-! ### Substitutes -/

namespace Datum

/-- A datum, or what stands for it if it is absent. -/
def orElse (d substitute : Datum) : Datum :=
  match d with
  | .absent => substitute
  | d => d

/-- Values of fields with substitutes where they are absent. -/
def fillFields : (substitutes : List Datum) → List (String × Datum) → List (String × Datum)
  | substitute :: substitutes, (name, d) :: values =>
    (name, d.orElse substitute) :: fillFields substitutes values
  | _, values => values

/-- A record with substitutes for what is absent. -/
def fill (substitutes : List Datum) : Datum → Datum
  | .record values => .record (fillFields substitutes values)
  | d => d

theorem orElse_of_ne_absent {d : Datum} (h : d ≠ .absent) (substitute : Datum) :
    d.orElse substitute = d := by
  cases d <;> first | rfl | exact absurd rfl h

end Datum

namespace Ron

variable {extensions : List Extension} {depth : Nat} {type : String} {opened : Bool}
  {text rest : List Char}

/-- Only what may be absent is read as absent. -/
theorem ne_absent_of_readDatum? {shape : Shape} {d : Datum} (hshape : shape.missing? = none)
    (h : readDatum? extensions depth shape opened text = some (d, rest)) : d ≠ .absent := by
  rintro rfl
  unfold readDatum? at h
  split at h
  case h_6 => cases hshape
  case h_11 =>
    simp only [Option.bind_eq_bind, Option.bind_eq_some_iff, Prod.exists] at h
    obtain ⟨name, more, -, h⟩ := h
    split at h
    · cases h
    · cases h
    · simp [Option.bind_eq_some_iff] at h
  case h_10 => cases opened <;> simp [Option.bind_eq_some_iff] at h
  all_goals simp at h

theorem exists_of_readParenthesized? {α : Type} {inside : Reader α} {a : α}
    (h : readParenthesized? opened inside text = some (a, rest)) :
    ∃ start left, inside start = some (a, left) := by
  unfold readParenthesized? at h
  split at h
  · exact ⟨text, rest, h⟩
  · split at h
    · simp only [readClosed?, Option.bind_eq_bind, Option.bind_eq_some_iff, Prod.exists] at h
      obtain ⟨a, left, ha, _, -, h⟩ := h
      cases h
      exact ⟨_, left, ha⟩
    · cases h

/-- Nor is a known field whose value may not be absent. -/
theorem ne_absent_of_readKnown? {shapes : List (String × Shape)} {known : List (String × Datum)}
    (hshapes : ∀ s ∈ shapes, s.2.missing? = none)
    (h : readKnown? extensions depth type shapes opened text = some (known, rest)) :
    ∀ field ∈ known, field.2 ≠ .absent := by
  -- the value of each field that is read was read by a shape
  have hitem {text rest : List Char} {item : String × Option Datum}
      (hread : readPair? readName? (readField? extensions depth shapes) text = some (item, rest)) :
      item.2 ≠ some .absent := by
    rw [readPair?] at hread
    simp only [Option.bind_eq_bind, Option.bind_eq_some_iff, Prod.exists] at hread
    obtain ⟨name, _, -, _, -, start, -, value, left, hvalue, hread⟩ := hread
    cases hread
    rintro rfl
    rw [readField?] at hvalue
    split at hvalue
    · next shape hfind =>
      obtain ⟨⟨d, _⟩, hd, heq⟩ := Option.map_eq_some_iff.mp hvalue
      cases heq
      exact ne_absent_of_readDatum? (hshapes _ (List.mem_of_find?_eq_some hfind)) hd rfl
    · obtain ⟨_, -, heq⟩ := Option.map_eq_some_iff.mp hvalue
      cases heq
  simp only [readKnown?, Option.bind_eq_bind, Option.bind_eq_some_iff, Prod.exists] at h
  obtain ⟨_, -, _, -, items, _, hitems, h⟩ := h
  cases h
  obtain ⟨_, _, hall⟩ := exists_of_readParenthesized? hitems
  intro field hfield
  obtain ⟨item, hmem, hstated⟩ := List.mem_filterMap.mp hfield
  obtain ⟨d, hd, rfl⟩ := Option.map_eq_some_iff.mp hstated
  exact fun heq => forall_mem_of_readItems? hitem hall item hmem (heq ▸ hd)

/-- Substitutes are put in where a field is not stated. -/
theorem arrange?_substitutes (fields : List (String × Shape × Datum))
    {known : List (String × Datum)} (hknown : ∀ field ∈ known, field.2 ≠ .absent) :
    arrange? (fields.map fun f => (f.1, f.2.1, some f.2.2)) known =
      (arrange? (fields.map fun f => (f.1, f.2.1, some .absent)) known).map
        (Datum.fillFields (fields.map (·.2.2))) := by
  induction fields with
  | nil => rfl
  | cons field fields ih =>
    obtain ⟨name, shape, substitute⟩ := field
    have hvalue : onlyValue? (some substitute) (known.filter (·.1 = name)) =
        (onlyValue? (some .absent) (known.filter (·.1 = name))).map (·.orElse substitute) := by
      cases hfound : known.filter (·.1 = name) with
      | nil => rfl
      | cons first others =>
        have hfirst : first ∈ known.filter (·.1 = name) := hfound ▸ List.mem_cons_self
        have hne := hknown first (List.mem_of_mem_filter hfirst)
        cases others with
        | nil => exact congrArg some (Datum.orElse_of_ne_absent hne substitute).symm
        | cons => rfl
    simp only [List.map_cons, arrange?_cons, Option.some_or, hvalue, ih]
    cases onlyValue? (some .absent) (known.filter (·.1 = name)) with
    | none => rfl
    | some d =>
      cases arrange? (fields.map fun f => (f.1, f.2.1, some .absent)) known <;> rfl

theorem readDatum?_substitutes {fields : List (String × Shape × Datum)}
    (hfields : ∀ f ∈ fields, f.2.1.missing? = none) (text : List Char) :
    readDatum? extensions (depth + 2)
      (.record type (fields.map fun f => (f.1, f.2.1, some f.2.2))) opened text =
        (readDatum? extensions (depth + 2)
          (.record type (fields.map fun f => (f.1, f.2.1, some .absent))) opened text).map
            fun read => (read.1.fill (fields.map (·.2.2)), read.2) := by
  have hshapes (substitute : String × Shape × Datum → Datum) :
      (fields.map fun f => (f.1, f.2.1, some (substitute f))).map (fun f => (f.1, f.2.1)) =
        fields.map fun f => (f.1, f.2.1) := List.map_map
  rw [readDatum?_record, readDatum?_record, hshapes, hshapes]
  cases hread : readKnown? extensions depth type (fields.map fun f => (f.1, f.2.1)) opened text with
  | none => rfl
  | some read =>
    have hne := ne_absent_of_readKnown? (List.forall_mem_map.mpr hfields) hread
    simp only [Option.bind_some, arrange?_substitutes fields hne]
    cases arrange? (fields.map fun f => (f.1, f.2.1, some .absent)) read.1 <;> rfl

/-- What holds of the reading of a value holds of the reading of a document. -/
theorem ofChars?_eq_map {shape other : Shape} {f : Datum → Datum}
    (h : ∀ extensions text, readDatum? extensions greatestDepth shape false text =
      (readDatum? extensions greatestDepth other false text).map fun read => (f read.1, read.2))
    (text : List Char) : ofChars? shape text = (ofChars? other text).map f := by
  simp only [ofChars?, h, Option.bind_eq_bind]
  cases readAttributes? (text.length + 1) text with
  | none => rfl
  | some attributes =>
    simp only [Option.bind_some]
    cases readDatum? attributes.1 greatestDepth other false attributes.2 with
    | none => rfl
    | some read =>
      simp only [Option.map_some, Option.bind_some]
      cases skipBlank? read.2 with
      | none => rfl
      | some rest =>
        simp only [Option.bind_some]
        split <;> rfl

/-- **A missing field has its substitute**: if no field may be absent of itself, a shape whose
fields have substitutes reads the documents that the shape reads in which every field may be
missing, and puts the substitutes in. -/
theorem ofChars?_substitutes {fields : List (String × Shape × Datum)}
    (hfields : ∀ f ∈ fields, f.2.1.missing? = none) (text : List Char) :
    ofChars? (.record type (fields.map fun f => (f.1, f.2.1, some f.2.2))) text =
      (ofChars? (.record type (fields.map fun f => (f.1, f.2.1, some .absent))) text).map
        (Datum.fill (fields.map (·.2.2))) :=
  ofChars?_eq_map (fun _ text => readDatum?_substitutes hfields text) text

end Ron

end FormulaChain
