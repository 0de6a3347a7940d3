import FormulaChain.Proofs.Json.Stored
import FormulaChain.Proofs.Ron.Stored

/-!
# What storage takes for granted of the notations

Nothing that is proved of stored values looks into the notation that they are written in. All that
is needed of JSON is that data are read back exactly if their numbers are finite
(`Codec.JsonLaws`), and all that is needed of RON concerns records of truth values and texts: how
they are laid out, that such a document is read back, and what stands for fields that are missing
(`Codec.RonLaws`). Both notations keep to their laws (`Json.laws`, `Ron.laws`).
-/

namespace FormulaChain

/-- A truth value or a text, and its shape. -/
inductive Datum.Plain : Shape → Datum → Prop where
  | bool (value : Bool) : Plain .bool (.bool value)
  | text (value : String) : Plain .text (.text value)

/-- A field with a name that can be written, and with a truth value or a text of the shape that
belongs to the name. -/
structure PlainField (shapes : List (String × Shape)) (field : String × Datum) : Prop where
  /-- The name can be written. -/
  name : Ron.IsName field.1
  /-- The value has the shape that belongs to the name. -/
  value : ∃ shape, shapes.find? (·.1 = field.1) = some (field.1, shape) ∧ field.2.Plain shape

namespace Codec

variable (codec : Codec)

/-- What is taken for granted of JSON. -/
structure JsonLaws : Prop where
  /-- Finite numbers are read back, and so is all else. -/
  read?_write {shape : Shape} {d : Datum} (hfits : shape.Fits d) (hfinite : d.isFinite = true)
    (indented : Bool) : codec.read? shape (codec.write indented d) = some d
  /-- In place of a number that is not finite stands something that is no number. -/
  refuses {shape : Shape} {d : Datum} (hfits : shape.Fits d) (hinfinite : d.isFinite = false)
    (indented : Bool) : codec.read? shape (codec.write indented d) = none

/-- What is taken for granted of RON. -/
structure RonLaws : Prop where
  /-- A truth value is written as its name. -/
  write_bool (indented value : Bool) : codec.write indented (.bool value) = Datum.truthName value
  /-- A text is written in quotes, with escapes. -/
  write_text (indented : Bool) (value : String) :
    codec.write indented (.text value) = Text.quotedStrictly value
  /-- Each field of a record has a line of its own. -/
  write_record {shapes : List (String × Shape)} {fields : List (String × Datum)}
    (hne : fields ≠ []) (hfields : ∀ field ∈ fields, PlainField shapes field) :
    codec.write true (.record fields) = "(\n" ++
      String.join
        (fields.map fun f => "    " ++ f.1 ++ ": " ++ codec.write true f.2 ++ ",\n") ++ ")"
  /-- A record of which some fields are stated is read back; the others are absent. -/
  read?_write {type : String} {shapes : List (String × Shape)}
    {values : List (String × Option Datum)} (hnames : (values.map (·.1)).Nodup)
    (hshapes : shapes.map (·.1) = values.map (·.1))
    (hvalues : ∀ value ∈ Ron.stated values, PlainField shapes value) (indented : Bool) :
    codec.read? (.record type (shapes.map fun s => (s.1, s.2, some .absent)))
        (codec.write indented (.record (Ron.stated values))) =
      some (.record (values.map fun value => (value.1, value.2.getD .absent)))
  /-- A field that is missing from a document has its substitute. -/
  read?_substitutes {type : String} {fields : List (String × Shape × Datum)}
    (hfields : ∀ f ∈ fields, f.2.1.missing? = none) (text : String) :
    codec.read? (.record type (fields.map fun f => (f.1, f.2.1, some f.2.2))) text =
      (codec.read? (.record type (fields.map fun f => (f.1, f.2.1, some .absent))) text).map
        (Datum.fill (fields.map (·.2.2)))

end Codec

/-- **JSON keeps to its laws.** -/
theorem Json.laws : Json.codec.JsonLaws := by
  have hread {shape : Shape} {d : Datum} (hfits : shape.Fits d) (indented : Bool) :
      codec.read? shape (codec.write indented d) = if d.isFinite then some d else none := by
    have hdocument : ofText? (codec.write indented d) = some d.toJson := by
      cases indented
      · exact ofText?_write d none
      · exact ofText?_write d (some 0)
    show (ofText? _).bind (fit? shape) = _
    rw [hdocument]
    exact fit?_toJson shape d hfits
  constructor
  · intro shape d hfits hfinite indented
    rw [hread hfits, if_pos hfinite]
  · intro shape d hfits hinfinite indented
    rw [hread hfits, if_neg (by simp [hinfinite])]

namespace Ron

variable {shapes : List (String × Shape)} {fields : List (String × Datum)}

/-- Truth values and texts are read back. -/
theorem fieldReadsBack_of_plainField {field : String × Datum} (h : PlainField shapes field)
    (depth : Nat) : FieldReadsBack depth shapes field where
  name := h.name
  value := by
    obtain ⟨shape, hshape, hvalue⟩ := h.value
    refine ⟨shape, hshape, ?_⟩
    generalize field.2 = d at hvalue
    cases hvalue with
    | bool value => exact readsBack_bool depth value
    | text value => exact readsBack_text depth value

/-- Truth values and texts take no more than the line they are on. -/
theorem write_plainField {field : String × Datum} (h : PlainField shapes field) (layout : Layout) :
    field.2.toRon.write layout = field.2.toRon.write none := by
  obtain ⟨shape, -, hvalue⟩ := h.value
  generalize field.2 = d at hvalue
  cases hvalue <;> rfl

/-- The line of a field. -/
theorem fieldLine {field : String × Datum} (h : PlainField shapes field) :
    ("    " ++ field.1 ++ ": " ++ codec.write true field.2 ++ ",\n").toList =
      "    ".toList ++ (field.1.toList ++ ':' :: ' ' ::
        (field.2.toRon.write (some 1) ++ [',', '\n'])) := by
  have hvalue : (codec.write true field.2).toList = field.2.toRon.write (some 1) := by
    rw [write_plainField h, ← write_plainField h (some 0)]
    exact String.toList_ofList
  simp only [String.toList_append, hvalue, List.append_assoc]
  rfl

/-- The lines of the fields. -/
theorem writeFields_plain (hfields : ∀ field ∈ fields, PlainField shapes field) :
    writeFields (some 1) (Datum.toRonFields fields) ++ ['\n', ')'] =
      '\n' :: ((String.join (fields.map fun f =>
        "    " ++ f.1 ++ ": " ++ codec.write true f.2 ++ ",\n")).toList ++ [')']) := by
  induction fields with
  | nil => rfl
  | cons field fields ih =>
    obtain ⟨hfield, hothers⟩ := List.forall_mem_cons.mp hfields
    rw [List.map_cons, String.join_cons, String.toList_append, fieldLine hfield,
      Datum.toRonFields, writeFields, List.append_assoc, ih hothers]
    simp [Layout.lineBreak, Layout.blank, Layout.comma, List.replicate]

theorem read?_write_codec (shape : Shape) (d : Datum) (indented : Bool) :
    codec.read? shape (codec.write indented d) =
      ofChars? shape (d.toRon.write (if indented then some 0 else none)) := by
  cases indented <;> exact congrArg (ofChars? shape) String.toList_ofList

/-- **RON keeps to its laws.** -/
theorem laws : codec.RonLaws where
  write_bool indented value := by
    cases indented <;> exact String.ofList_toList
  write_text indented value := by
    cases indented <;> exact String.ofList_toList
  write_record {shapes fields} hne hfields := by
    cases fields with
    | nil => exact absurd rfl hne
    | cons field fields =>
      have hlines : (codec.write true (.record (field :: fields))).toList =
          '(' :: (writeFields (some 1) (Datum.toRonFields (field :: fields)) ++ ['\n', ')']) := by
        simp [codec, pretty, Datum.toRon, Datum.toRonFields, write, tagText, Layout.deeper,
          Layout.lineBreak]
      rw [← String.toList_inj, hlines, writeFields_plain hfields]
      simp only [String.toList_append]
      rfl
  read?_write hnames hshapes hvalues indented := by
    have hreads := fun value hvalue => fieldReadsBack_of_plainField (hvalues value hvalue)
      (greatestDepth - 2)
    rw [read?_write_codec]
    exact ofChars?_stated hnames hshapes hreads _
  read?_substitutes hfields text := ofChars?_substitutes hfields text.toList

end Ron

end FormulaChain
