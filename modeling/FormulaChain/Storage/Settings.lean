import FormulaChain.Formula.Settings
import FormulaChain.Storage.Storable

/-!
# Stored settings

Settings are kept in RON documents, in which every field may be missing: then it has the value of a
new user's settings. Settings that cannot drive a compilation are refused when they are read.
-/

namespace FormulaChain

open Storable

instance : Storable Settings where
  shape := .record "FormulaSettings" [fieldOr "formula" Settings.default.formula,
    fieldOr "temp_attr_name" Settings.default.tempName,
    fieldOr "add_frame" Settings.default.addFrame]
  store s := .record [("formula", store s.formula), ("temp_attr_name", store s.tempName),
    ("add_frame", store s.addFrame)]
  restore?
    | .record [(_, formula), (_, tempName), (_, addFrame)] => do
      return ⟨← restore? formula, ← restore? tempName, ← restore? addFrame⟩
    | _ => none

/-- Why settings could not be had. -/
inductive SettingsError where
  /-- The file cannot be read, for a reason. -/
  | unreadable (path reason : String)
  /-- The text is no settings document. -/
  | malformed
  /-- The stem of the names of intermediate results cannot be used. -/
  | invalidStem (stem : String)
  deriving DecidableEq

namespace SettingsError

/-- The text of an error. -/
def message : SettingsError → String
  | .unreadable path reason =>
    "failed to read settings from " ++ Text.quoted path ++ ": " ++ reason
  | .malformed => "failed to parse settings"
  | .invalidStem stem => invalidStemMessage stem

end SettingsError

namespace Settings

/-- Settings that can drive a compilation, or why these cannot. -/
def validate (s : Settings) : Except SettingsError Settings :=
  if s.isValid then .ok s else .error (.invalidStem s.tempName)

/-- Reads settings from a document. -/
def ofText (text : String) : Except SettingsError Settings :=
  match ofRonText? (α := Settings) text with
  | some s => s.validate
  | none => .error .malformed

/-- Writes settings as a document. -/
def toText (s : Settings) : String := prettyRonText s

end Settings

end FormulaChain
