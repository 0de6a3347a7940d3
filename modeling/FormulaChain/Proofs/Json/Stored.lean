import FormulaChain.Json.Stored
import FormulaChain.Proofs.Json.Single
import FormulaChain.Proofs.Json.Text

/-!
# Data are read back from documents

A datum that fits a shape (`Shape.Fits`) is read back from its document by that shape, unless one of
its numbers is not finite: such a number leaves an empty value, which is refused
(`fit?_toJson`). The document itself is read back from its text, on one line or indented
(`ofText?_write`).
-/

namespace FormulaChain

namespace Text

/-- A character is one unit. -/
theorem charsOfUnits?_toNat_cons (c : Char) (units : List Nat) :
    charsOfUnits? (c.toNat :: units) = (charsOfUnits? units).map (c :: ·) := by
  have hvalid : c.toNat < 0xD800 ∨ 0xDFFF < c.toNat ∧ c.toNat < 0x110000 := c.valid
  have hleading : isLeadingUnit c.toNat = false := by
    simp only [isLeadingUnit, Bool.and_eq_false_iff, decide_eq_false_iff_not]
    omega
  have htrailing : isTrailingUnit c.toNat = false := by
    simp only [isTrailingUnit, Bool.and_eq_false_iff, decide_eq_false_iff_not]
    omega
  cases units with
  | nil => simp [charsOfUnits?, hleading, htrailing]
  | cons unit units => simp [charsOfUnits?, hleading, htrailing]

/-- Texts are read from their units. -/
theorem ofUnits?_units (text : String) : ofUnits? (units text) = some text := by
  have hchars (chars : List Char) : charsOfUnits? (chars.map Char.toNat) = some chars := by
    induction chars with
    | nil => rfl
    | cons c chars ih => rw [List.map_cons, charsOfUnits?_toNat_cons, ih, Option.map_some]
  rw [ofUnits?, units, hchars, Option.map_some, String.ofList_toList]

end Text

/-! ### Numbers in a datum -/

namespace Datum

mutual

/-- The numbers in a datum, in order. -/
def floats : Datum → List Single
  | .single value => [value]
  | .present value => value.floats
  | .list items => floatsItems items
  | .array items => floatsItems items
  | .table entries => floatsEntries entries
  | .record fields => floatsFields fields
  | .holding _ content => content.floats
  | _ => []
termination_by structural d => d

/-- The numbers in data. -/
def floatsItems : List Datum → List Single
  | [] => []
  | item :: items => item.floats ++ floatsItems items
termination_by structural items => items

/-- The numbers in a table. -/
def floatsEntries : List (Nat × Datum) → List Single
  | [] => []
  | (_, value) :: entries => value.floats ++ floatsEntries entries
termination_by structural entries => entries

/-- The numbers in the fields of a record. -/
def floatsFields : List (String × Datum) → List Single
  | [] => []
  | (_, value) :: fields => value.floats ++ floatsFields fields
termination_by structural fields => fields

end

/-- Whether all numbers in a datum are finite. -/
def isFinite (d : Datum) : Bool := d.floats.all Single.isFinite

theorem floatsItems_eq (items : List Datum) : floatsItems items = items.flatMap floats := by
  induction items with
  | nil => rfl
  | cons item items ih => rw [floatsItems, ih, List.flatMap_cons]

theorem isFinite_list (items : List Datum) : (list items).isFinite = items.all isFinite := by
  rw [isFinite, floats, floatsItems_eq, List.all_flatMap]
  rfl

theorem isFinite_record_cons (name : String) (value : Datum) (fields : List (String × Datum)) :
    (record ((name, value) :: fields)).isFinite =
      (value.isFinite && (record fields).isFinite) := by
  simp only [isFinite, floats, floatsFields, List.all_append]

theorem toJsonItems_eq (items : List Datum) : toJsonItems items = items.map toJson := by
  induction items with
  | nil => rfl
  | cons item items ih => rw [toJsonItems, ih, List.map_cons]

theorem toJsonEntries_eq (entries : List (Nat × Datum)) :
    toJsonEntries entries =
      entries.map fun e => (Text.units (Text.identityText e.1), e.2.toJson) := by
  induction entries with
  | nil => rfl
  | cons e entries ih => rw [toJsonEntries, ih, List.map_cons]

theorem toJsonFields_eq (fields : List (String × Datum)) :
    toJsonFields fields = fields.map fun f => (Text.units f.1, f.2.toJson) := by
  induction fields with
  | nil => rfl
  | cons f fields ih => rw [toJsonFields, ih, List.map_cons]

end Datum

/-! ### Data of a shape -/

namespace Shape

/-- Whether data of a shape may be written as the empty value. -/
def mayBeNull : Shape → Bool
  | .single | .optional _ => true
  | _ => false

mutual

/-- The data that a document of a shape holds: whole numbers have 64 bits, what may be absent is
told from the empty value, and names stand once. Identities are left out of account. -/
def Fits : Shape → Datum → Prop
  | .bool, .bool _ => True
  | .natural, .natural value => value < Json.Number.wordBound
  | .single, .single _ => True
  | .text, .text _ => True
  | .optional _, .absent => True
  | .optional shape, .present value => shape.mayBeNull = false ∧ Fits shape value
  | .list shape, .list items => ∀ item ∈ items, Fits shape item
  | .array length shape, .array items => items.length = length ∧ ∀ item ∈ items, Fits shape item
  | .record _ fields, .record values => (values.map (·.1)).Nodup ∧ FitsFields fields values
  | .choice variants, .choice name => FitsName variants name
  | .choice variants, .holding name content => FitsVariant variants name content
  | _, _ => False
termination_by structural shape => shape

/-- Values under the names of fields. -/
def FitsFields : List (String × Shape × Option Datum) → List (String × Datum) → Prop
  | [], values => values = []
  | (name, shape, _) :: fields, values =>
    ∃ value rest, values = (name, value) :: rest ∧ Fits shape value ∧ FitsFields fields rest
termination_by structural fields => fields

/-- A choice without a value. -/
def FitsName : List (String × Option Shape) → String → Prop
  | [], _ => False
  | (name, content) :: variants, chosen =>
    if name = chosen then content = none else FitsName variants chosen
termination_by structural variants => variants

/-- A choice with a value. -/
def FitsVariant : List (String × Option Shape) → String → Datum → Prop
  | [], _, _ => False
  | (name, none) :: variants, chosen, content =>
    name ≠ chosen ∧ FitsVariant variants chosen content
  | (name, some shape) :: variants, chosen, content =>
    if name = chosen then Fits shape content else FitsVariant variants chosen content
termination_by structural variants => variants

end

end Shape

namespace Json

open Shape

/-! ### Lists and fields -/

/-- Values that are read back one by one, if each satisfies a test, are read back together if all
do. -/
theorem mapM_map_eq {α β : Type} {read : β → Option α} {write : α → β} {test : α → Bool}
    {items : List α}
    (h : ∀ item ∈ items, read (write item) = if test item then some item else none) :
    (items.map write).mapM read = if items.all test then some items else none := by
  induction items with
  | nil => rfl
  | cons item items ih =>
    obtain ⟨hitem, hitems⟩ := List.forall_mem_cons.mp h
    rw [List.map_cons, List.mapM_cons, hitem, ih hitems, List.all_cons]
    cases test item <;> cases items.all test <;> rfl

theorem mapM_toJsonItems {shape : Shape} {items : List Datum}
    (h : ∀ item ∈ items, fit? shape item.toJson = if item.isFinite then some item else none) :
    (Datum.toJsonItems items).mapM (fit? shape) =
      if (Datum.list items).isFinite then some items else none := by
  rw [Datum.toJsonItems_eq, mapM_map_eq h, Datum.isFinite_list]

theorem named?_toJsonFields (values : List (String × Datum)) :
    named? (Datum.toJsonFields values) = some (values.map fun v => (v.1, v.2.toJson)) := by
  rw [Datum.toJsonFields_eq]
  induction values with
  | nil => rfl
  | cons v values ih =>
    rw [named?] at ih ⊢
    simp [Text.ofUnits?_units, ih]

/-- A name that stands once is found once. -/
theorem filter_name_eq {values : List (String × Datum)} (h : (values.map (·.1)).Nodup) :
    ∀ v ∈ values, (values.map fun v => (v.1, v.2.toJson)).filter (·.1 = v.1) =
      [(v.1, v.2.toJson)] := by
  induction values with
  | nil => exact fun v hv => by cases hv
  | cons first values ih =>
    obtain ⟨hfirst, hvalues⟩ := List.nodup_cons.mp h
    have hother : ∀ v ∈ values, v.1 ≠ first.1 :=
      fun v hv heq => hfirst (List.mem_map.mpr ⟨v, hv, heq⟩)
    intro v hv
    rw [List.map_cons]
    rcases List.mem_cons.mp hv with rfl | hv
    · rw [List.filter_cons_of_pos (by simp), List.filter_eq_nil_iff.mpr]
      intro member hmember
      obtain ⟨v', hv', rfl⟩ := List.mem_map.mp hmember
      simpa using hother v' hv'
    · rw [List.filter_cons_of_neg (by simpa using (hother v hv).symm), ih hvalues v hv]

/-! ### Reading by a shape -/

/-- What may be absent is told from the empty value. -/
theorem toJson_ne_null {shape : Shape} {d : Datum} (h : shape.mayBeNull = false)
    (hfits : shape.Fits d) : d.toJson ≠ .null := by
  cases shape <;> cases d <;> simp_all [Fits, mayBeNull, Datum.toJson, ofString]

theorem fit?_optional {shape : Shape} {j : Json} (h : j ≠ .null) :
    fit? (.optional shape) j = (fit? shape j).map .present := by
  rw [fit?]
  exact h

theorem fitName?_eq {variants : List (String × Option Shape)} {name : String}
    (h : FitsName variants name) : fitName? variants name = some (.choice name) := by
  induction variants with
  | nil => cases h
  | cons variant variants ih =>
    rw [FitsName] at h
    rw [fitName?]
    by_cases hname : variant.1 = name
    · rw [if_pos hname] at h ⊢
      rw [h, hname]
      rfl
    · rw [if_neg hname] at h ⊢
      exact ih h

-- by recursion on the shape, and on the fields and the variants it holds

mutual

/-- **Data of a shape are read back from their documents**, if all their numbers are finite, and
refused if not. -/
theorem fit?_toJson (shape : Shape) (d : Datum) (h : shape.Fits d) :
    fit? shape d.toJson = if d.isFinite then some d else none := by
  match shape, d, h with
  | .bool, .bool value, _ => rfl
  | .natural, .natural value, h =>
    rw [Datum.toJson, fit?, Number.natural?_toDigits h]
    rfl
  | .single, .single value, _ =>
    rw [Datum.toJson]
    -- a number that is not finite is written as the empty value, which is read as no number
    cases value with
    | nan negative => rfl
    | infinite negative => rfl
    | finite negative r =>
      have hread := (readSingle?_numeral? (s := .finite negative r) rfl).1
      show (readSingle? _).map Datum.single = _
      rw [hread]
      rfl
  | .text, .text value, _ =>
    rw [Datum.toJson, ofString, fit?, Text.ofUnits?_units]
    rfl
  | .optional shape, .absent, _ => rfl
  | .optional shape, .present value, h =>
    have hpresent : (Datum.present value).isFinite = value.isFinite := rfl
    rw [Datum.toJson, fit?_optional (toJson_ne_null h.1 h.2), fit?_toJson shape value h.2, hpresent]
    split <;> rfl
  | .list shape, .list items, h =>
    rw [Datum.toJson, fit?, mapM_toJsonItems fun item hi => fit?_toJson shape item (h item hi)]
    split <;> rfl
  | .array length shape, .array items, h =>
    have hlength : (Datum.toJsonItems items).length = length := by
      rw [Datum.toJsonItems_eq, List.length_map, h.1]
    have harray : (Datum.array items).isFinite = (Datum.list items).isFinite := rfl
    rw [Datum.toJson, fit?, if_pos hlength, harray,
      mapM_toJsonItems fun item hi => fit?_toJson shape item (h.2 item hi)]
    split <;> rfl
  | .record name fields, .record values, h =>
    have hfields := fitFields?_toJson fields values h.2 _ (filter_name_eq h.1)
    simp only [Datum.toJson, fit?, named?_toJsonFields, Option.bind_eq_bind, Option.bind_some,
      hfields]
    split <;> rfl
  | .choice variants, .choice name, h =>
    rw [Datum.toJson, ofString, fit?, Text.ofUnits?_units]
    exact fitName?_eq h
  | .choice variants, .holding name content, h =>
    have hcontent : (Datum.holding name content).isFinite = content.isFinite := rfl
    rw [Datum.toJson, fit?, Text.ofUnits?_units, hcontent]
    exact fitVariant?_toJson variants name content h
termination_by structural shape

/-- Fields are found by their names. -/
theorem fitFields?_toJson (fields : List (String × Shape × Option Datum))
    (values : List (String × Datum)) (h : FitsFields fields values)
    (members : List (String × Json))
    (hmembers : ∀ v ∈ values, members.filter (·.1 = v.1) = [(v.1, v.2.toJson)]) :
    fitFields? fields members =
      if (Datum.record values).isFinite then some values else none := by
  match fields, h with
  | [], h =>
    obtain rfl : values = [] := h
    rfl
  | (name, shape, _) :: fields, h =>
    obtain ⟨value, rest, rfl, hfits, hrest⟩ := h
    obtain ⟨hmember, hmembers⟩ := List.forall_mem_cons.mp hmembers
    have hvalue := fit?_toJson shape value hfits
    have hfields := fitFields?_toJson fields rest hrest members hmembers
    rw [fitFields?, hmember, Datum.isFinite_record_cons]
    simp only [hvalue, hfields]
    cases value.isFinite <;> cases (Datum.record rest).isFinite <;> rfl
termination_by structural fields

/-- A choice is found by its name. -/
theorem fitVariant?_toJson (variants : List (String × Option Shape)) (name : String)
    (content : Datum) (h : FitsVariant variants name content) :
    fitVariant? variants name content.toJson =
      if content.isFinite then some (.holding name content) else none := by
  match variants, h with
  | (other, none) :: variants, h =>
    show (if other = name then _ else fitVariant? variants name content.toJson) = _
    rw [if_neg h.1]
    exact fitVariant?_toJson variants name content h.2
  | (other, some shape) :: variants, h =>
    rw [FitsVariant] at h
    rw [fitVariant?]
    by_cases hname : other = name
    · rw [if_pos hname] at h ⊢
      rw [fit?_toJson shape content h, hname]
      split <;> rfl
    · rw [if_neg hname] at h ⊢
      exact fitVariant?_toJson variants name content h
termination_by structural variants

end

/-! ### Documents of data -/

/-- Members that are written under texts. -/
theorem wellFormed_object {α : Type} {items : List α} {key : α → List Nat} {value : α → Datum}
    (hkey : ∀ item, ∃ name, key item = Text.units name)
    (h : ∀ item ∈ items, WellFormed (value item).toJson) :
    WellFormed (.object (items.map fun item => (key item, (value item).toJson))) := by
  constructor
  · intro m hm
    obtain ⟨item, -, rfl⟩ := List.mem_map.mp hm
    exact hkey item
  · intro m hm
    obtain ⟨item, hitem, rfl⟩ := List.mem_map.mp hm
    exact h item hitem

mutual

/-- The document of a datum is well-formed. -/
theorem wellFormed_toJson (d : Datum) : WellFormed d.toJson := by
  match d with
  | .bool value => exact .bool value
  | .natural value =>
    have hchars := Number.chars_ofNatural value
    refine .number ?_ ?_
    · rw [← hchars]
      exact Number.isNumeric_of_mem_chars (Number.proper_ofNatural value)
    · rw [← hchars, Number.read?_chars (Number.proper_ofNatural value)]
      rfl
  | .single value =>
    rw [Datum.toJson]
    cases hnumeral : numeral? value with
    | none => exact .null
    | some text =>
      obtain ⟨-, hread, hchars⟩ := readSingle?_numeral? hnumeral
      exact .number hchars hread
  | .text value => exact .string value
  | .identity key => exact .string (Text.identityText key)
  | .absent => exact .null
  | .present value => exact wellFormed_toJson value
  | .list items =>
    rw [Datum.toJson, Datum.toJsonItems_eq]
    exact .array (List.forall_mem_map.mpr (wellFormed_items items))
  | .array items =>
    rw [Datum.toJson, Datum.toJsonItems_eq]
    exact .array (List.forall_mem_map.mpr (wellFormed_items items))
  | .table entries =>
    rw [Datum.toJson, Datum.toJsonEntries_eq]
    have hkey (e : Nat × Datum) : ∃ key, Text.units (Text.identityText e.1) = Text.units key :=
      ⟨Text.identityText e.1, rfl⟩
    exact wellFormed_object hkey (wellFormed_entries entries)
  | .record fields =>
    rw [Datum.toJson, Datum.toJsonFields_eq]
    exact wellFormed_object (fun f => ⟨f.1, rfl⟩) (wellFormed_fields fields)
  | .choice name => exact .string name
  | .holding name content =>
    have hcontent : ∀ d ∈ [content], WellFormed d.toJson :=
      List.forall_mem_singleton.mpr (wellFormed_toJson content)
    exact wellFormed_object (fun _ => ⟨name, rfl⟩) hcontent
termination_by structural d

theorem wellFormed_items (items : List Datum) : ∀ item ∈ items, WellFormed item.toJson := by
  match items with
  | [] => exact fun item hitem => by cases hitem
  | item :: items =>
    exact List.forall_mem_cons.mpr ⟨wellFormed_toJson item, wellFormed_items items⟩
termination_by structural items

theorem wellFormed_entries (entries : List (Nat × Datum)) :
    ∀ entry ∈ entries, WellFormed entry.2.toJson := by
  match entries with
  | [] => exact fun entry hentry => by cases hentry
  | (key, value) :: entries =>
    exact List.forall_mem_cons.mpr ⟨wellFormed_toJson value, wellFormed_entries entries⟩
termination_by structural entries

theorem wellFormed_fields (fields : List (String × Datum)) :
    ∀ field ∈ fields, WellFormed field.2.toJson := by
  match fields with
  | [] => exact fun field hfield => by cases hfield
  | (name, value) :: fields =>
    exact List.forall_mem_cons.mpr ⟨wellFormed_toJson value, wellFormed_fields fields⟩
termination_by structural fields

end

/-- **The document of a datum is read back**, on one line or indented. -/
theorem ofText?_write (d : Datum) (layout : Layout) :
    ofText? (String.ofList (d.toJson.write layout)) = some d.toJson := by
  rw [ofText?, String.toList_ofList]
  exact ofChars?_write (wellFormed_toJson d) layout

end Json

end FormulaChain
