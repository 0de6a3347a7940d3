import FormulaChain.Proofs.Storage.Codec
import FormulaChain.Storage.Settings

/-!
# Settings survive storage

A document states some of the fields of settings (`Stated`), and settings are read from it by
putting those of a new user in where nothing is stated (`ofTextIn?_eq_stated`). What is stated is
read back from the document that states it, whatever characters its texts have
(`Stated.ofTextIn?_textIn`). All this holds in any notation with the laws of RON.

Settings are written with all their fields, so they are read back as they are, and refused only if
they could not drive a compilation (`ofText_toText`).
-/

namespace FormulaChain

open Storable

namespace Storable

variable {α : Type} [Storable α]

/-- The value of a datum that may be absent. -/
def restoreStated? : Datum → Option (Option α)
  | .absent => some none
  | d => (restore? d).map some

theorem restoreStated?_of_ne_absent {d : Datum} (h : d ≠ .absent) :
    (restoreStated? d : Option (Option α)) = (restore? d).map some := by
  rw [restoreStated?]
  exact h

/-- A substitute stands for a value that is not stated. -/
theorem restore?_orElse {a : α} (ha : restore? (store a) = some a) (d : Datum) :
    restore? (d.orElse (store a)) = (restoreStated? d).map fun stated => stated.getD a := by
  by_cases h : d = .absent
  · rw [h]
    exact ha
  · rw [Datum.orElse_of_ne_absent h, restoreStated?_of_ne_absent h, Option.map_map]
    exact Option.map_id'.symm

theorem restoreStated?_getD {stated : Option α}
    (h : ∀ a ∈ stated, restore? (store a) = some a ∧ store a ≠ .absent) :
    restoreStated? ((stated.map store).getD .absent) = some stated := by
  cases stated with
  | none => rfl
  | some a =>
    obtain ⟨hrestore, hne⟩ := h a rfl
    rw [Option.map_some, Option.getD_some, restoreStated?_of_ne_absent hne, hrestore,
      Option.map_some]

end Storable

namespace Settings

/-- What a document states about settings. -/
structure Stated where
  /-- The formula, if it is stated. -/
  formula : Option String
  /-- The stem of the names of intermediate results, if it is stated. -/
  tempName : Option String
  /-- Whether the nodes are put into a frame, if it is stated. -/
  addFrame : Option Bool
  deriving DecidableEq

namespace Stated

/-- The settings that a document stands for. -/
def settings (d : Stated) : Settings where
  formula := d.formula.getD default.formula
  tempName := d.tempName.getD default.tempName
  addFrame := d.addFrame.getD default.addFrame

/-- All that can be stated. -/
def ofSettings (s : Settings) : Stated := ⟨some s.formula, some s.tempName, some s.addFrame⟩

/-- What is stated, by the names of the fields. -/
def values (d : Stated) : List (String × Option Datum) :=
  [("formula", d.formula.map store), ("temp_attr_name", d.tempName.map store),
    ("add_frame", d.addFrame.map store)]

/-- The fields with what stands for them when they are missing. -/
def fields : List (String × Shape × Datum) :=
  [("formula", .text, store default.formula), ("temp_attr_name", .text, store default.tempName),
    ("add_frame", .bool, store default.addFrame)]

instance : Storable Stated where
  shape := .record "FormulaSettings" (fields.map fun f => (f.1, f.2.1, some .absent))
  store d := .record (Ron.stated d.values)
  restore?
    | .record [(_, formula), (_, tempName), (_, addFrame)] => do
      return ⟨← restoreStated? formula, ← restoreStated? tempName, ← restoreStated? addFrame⟩
    | _ => none

theorem shape_settings :
    shape Settings = .record "FormulaSettings" (fields.map fun f => (f.1, f.2.1, some f.2.2)) := rfl

/-- No field of settings may be absent of itself. -/
theorem missing?_of_mem_fields : ∀ f ∈ fields, f.2.1.missing? = none := by
  simp [fields, Shape.missing?]

/-- Settings are what is stated, with substitutes. -/
theorem restore?_fill (d : Datum) :
    (restore? (d.fill (fields.map (·.2.2))) : Option Settings) =
      (restore? d : Option Stated).map settings := by
  cases d with
  | record found =>
    match found with
    | [(_, formula), (_, tempName), (_, addFrame)] =>
      show (do return ⟨← restore? (formula.orElse (store default.formula)),
        ← restore? (tempName.orElse (store default.tempName)),
        ← restore? (addFrame.orElse (store default.addFrame))⟩ : Option Settings) =
          Option.map settings (do return ⟨← restoreStated? formula, ← restoreStated? tempName,
            ← restoreStated? addFrame⟩)
      rw [restore?_orElse rfl, restore?_orElse rfl, restore?_orElse rfl]
      cases (restoreStated? formula : Option (Option String)) <;>
        cases (restoreStated? tempName : Option (Option String)) <;>
        cases (restoreStated? addFrame : Option (Option Bool)) <;> rfl
    | [] | [_] | [_, _] | _ :: _ :: _ :: _ :: _ => rfl
  | _ => rfl

/-- What is stated are truth values and texts. -/
theorem plainField_of_mem_stated (d : Stated) : ∀ value ∈ Ron.stated d.values,
    PlainField (fields.map fun f => (f.1, f.2.1)) value := by
  have hnames : Ron.IsName "formula" ∧ Ron.IsName "temp_attr_name" ∧ Ron.IsName "add_frame" := by
    decide +kernel
  intro value hvalue
  obtain ⟨⟨name, stated⟩, hmem, hvalue⟩ := List.mem_filterMap.mp hvalue
  obtain ⟨datum, rfl, rfl⟩ := Option.map_eq_some_iff.mp hvalue
  simp only [values, List.mem_cons, List.not_mem_nil, or_false, Prod.mk.injEq] at hmem
  rcases hmem with ⟨rfl, hdatum⟩ | ⟨rfl, hdatum⟩ | ⟨rfl, hdatum⟩
  · obtain ⟨formula, -, rfl⟩ := Option.map_eq_some_iff.mp hdatum.symm
    exact ⟨hnames.1, .text, rfl, .text formula⟩
  · obtain ⟨tempName, -, rfl⟩ := Option.map_eq_some_iff.mp hdatum.symm
    exact ⟨hnames.2.1, .text, rfl, .text tempName⟩
  · obtain ⟨addFrame, -, rfl⟩ := Option.map_eq_some_iff.mp hdatum.symm
    exact ⟨hnames.2.2, .bool, rfl, .bool addFrame⟩

end Stated

section

open Stated

variable {codec : Codec} (hron : codec.RonLaws)

include hron

/-- **Missing fields are those of a new user**: a document is one of settings exactly if it states
fields of settings. -/
theorem ofTextIn?_eq_stated (text : String) :
    (ofTextIn? codec text : Option Settings) =
      (ofTextIn? codec text : Option Stated).map settings := by
  have hread : codec.read? (shape Settings) text =
      (codec.read? (shape Stated) text).map (Datum.fill (fields.map (·.2.2))) := by
    rw [shape_settings]
    exact hron.read?_substitutes missing?_of_mem_fields text
  rw [ofTextIn?, ofTextIn?, hread]
  cases codec.read? (shape Stated) text with
  | none => rfl
  | some d => exact restore?_fill d

/-- **What is stated is read back** from the document that states it, on one line or indented. -/
theorem Stated.ofTextIn?_textIn (d : Stated) (indented : Bool) :
    ofTextIn? codec (textIn codec indented d) = some d := by
  have hnames : (d.values.map (·.1)).Nodup :=
    (by decide : ["formula", "temp_attr_name", "add_frame"].Nodup)
  have hread : codec.read? (shape Stated) (textIn codec indented d) =
      some (.record (d.values.map fun value => (value.1, value.2.getD .absent))) :=
    hron.read?_write hnames rfl d.plainField_of_mem_stated indented
  have htext (stated : Option String) :
      restoreStated? ((stated.map store).getD .absent) = some stated :=
    restoreStated?_getD fun a _ => ⟨rfl, nofun⟩
  have htruth (stated : Option Bool) :
      restoreStated? ((stated.map store).getD .absent) = some stated :=
    restoreStated?_getD fun a _ => ⟨rfl, nofun⟩
  rw [ofTextIn?, hread]
  show (do return ⟨← restoreStated? ((d.formula.map store).getD .absent),
    ← restoreStated? ((d.tempName.map store).getD .absent),
    ← restoreStated? ((d.addFrame.map store).getD .absent)⟩ : Option Stated) = some d
  rw [htext, htext, htruth]
  rfl

/-- Settings are read back, since they state all there is. -/
theorem ofTextIn?_textIn (s : Settings) (indented : Bool) :
    ofTextIn? codec (textIn codec indented s) = some s :=
  calc (ofTextIn? codec (textIn codec indented s) : Option Settings)
    _ = (ofTextIn? codec (textIn codec indented s)).map Stated.settings :=
      ofTextIn?_eq_stated hron _
    _ = (some (ofSettings s)).map Stated.settings :=
      congrArg (Option.map Stated.settings) ((ofSettings s).ofTextIn?_textIn hron indented)
    _ = some s := rfl

/-- Settings are written with a line for each field. -/
theorem textIn_eq (s : Settings) : textIn codec true s =
    "(\n    formula: " ++ Text.quotedStrictly s.formula ++ ",\n    temp_attr_name: " ++
      Text.quotedStrictly s.tempName ++ ",\n    add_frame: " ++ Datum.truthName s.addFrame ++
      ",\n)" := by
  have hwrite : textIn codec true s = _ :=
    hron.write_record (List.cons_ne_nil _ _) (ofSettings s).plainField_of_mem_stated
  have htext (text : String) : codec.write true (store text) = Text.quotedStrictly text :=
    hron.write_text true text
  have htruth (value : Bool) : codec.write true (store value) = Datum.truthName value :=
    hron.write_bool true value
  rw [hwrite, ← String.toList_inj]
  simp [htext, htruth]

end

/-- RON is such a notation. -/
theorem ofRonText?_eq_stated (text : String) :
    (ofRonText? text : Option Settings) = (ofRonText? text : Option Stated).map Stated.settings :=
  ofTextIn?_eq_stated Ron.laws text

/-- **Settings survive storage.** They are written with a line for each field and read back as they
are, whatever characters their texts have; only those that could not drive a compilation are refused
when they are read, for their stem. -/
theorem ofText_toText (s : Settings) :
    s.toText = "(\n    formula: " ++ Text.quotedStrictly s.formula ++ ",\n    temp_attr_name: " ++
        Text.quotedStrictly s.tempName ++ ",\n    add_frame: " ++ Datum.truthName s.addFrame ++
        ",\n)" ∧
      ofRonText? s.toText = some s ∧
      ofText s.toText = if s.isValid then .ok s else .error (.invalidStem s.tempName) := by
  have hread : ofRonText? s.toText = some s := ofTextIn?_textIn Ron.laws s true
  refine ⟨textIn_eq Ron.laws s, hread, ?_⟩
  rw [ofText, hread]
  rfl

example : toText ⟨"\"\\\n'\x00\u0301", "t", false⟩ =
    "(\n    formula: \"\\\"\\\\\\n\\'\\0\\u\x7b301\x7d\",\n    temp_attr_name: \"t\",\n" ++
      "    add_frame: false,\n)" := by
  decide +kernel

end Settings

end FormulaChain
