import FormulaChain.CommandLine.Run
import FormulaChain.Proofs.Storage.Settings

/-!
# Arguments on top of a settings file

What a settings file states goes before the settings of a new user, and what the arguments say goes
before both (`overlay`). The stem of the file is checked before the arguments are looked at, and the
stem that results is checked again (`resolve_settingsFile`). So a file with a stem that cannot be
used is refused although the arguments give another one (`resolve_unusableFile`).
-/

namespace FormulaChain

open Storable

namespace Settings

/-- A stem that cannot be used: it is empty or holds white space. -/
def Unusable (stem : String) : Prop := stem = "" ∨ ∃ c ∈ stem.toList, Text.isBlank c = true

theorem validStem_eq_false_iff (stem : String) : validStem stem = false ↔ Unusable stem := by
  rw [validStem, Bool.and_eq_false_iff, Unusable]
  simp

instance (stem : String) : Decidable (Unusable stem) :=
  decidable_of_iff _ (validStem_eq_false_iff stem)

theorem validate_eq (s : Settings) :
    s.validate = if Unusable s.tempName then .error (.invalidStem s.tempName) else .ok s := by
  rw [validate, isValid]
  by_cases h : Unusable s.tempName
  · rw [if_pos h, (validStem_eq_false_iff _).mpr h, if_neg Bool.false_ne_true]
  · rw [if_neg h, if_pos (eq_true_of_ne_false (mt (validStem_eq_false_iff _).mp h))]

end Settings

namespace Arguments

/-- What the arguments say, or else what a file states, or else the settings of a new user. -/
def overlay (a : Arguments) (d : Settings.Stated) : Settings where
  formula := (a.formula.or d.formula).getD Settings.default.formula
  tempName := (a.tempName.or d.tempName).getD Settings.default.tempName
  addFrame := !a.noFrame && d.addFrame.getD Settings.default.addFrame

theorem override_settings (a : Arguments) (d : Settings.Stated) :
    a.override d.settings = a.overlay d := by
  obtain ⟨formula, _, tempName, noFrame, _, _⟩ := a
  cases formula <;> cases tempName <;> cases noFrame <;>
    simp [override, overlay, Settings.Stated.settings]

variable {a : Arguments} {readFile : String → Except String String} {path text : String}

/-- The settings of a file are those that it stands for, if these can drive a compilation. -/
theorem baseSettings_of_file {d : Settings.Stated} (hsettings : a.settings = some path)
    (hread : readFile path = .ok text) (hstated : ofRonText? text = some d) :
    a.baseSettings readFile = d.settings.validate := by
  rw [baseSettings, hsettings]
  dsimp only
  rw [hread]
  dsimp only
  rw [Settings.ofText, Settings.ofRonText?_eq_stated, hstated]
  rfl

/-- **A settings file and the arguments**: the stem of the file has to be one that can be used, and
so has the stem that results; then the settings are what the arguments say on top of the file, and
otherwise the error tells of the stem that cannot be used. -/
theorem resolve_settingsFile (hsettings : a.settings = some path) (hread : readFile path = .ok text)
    (hparse : (ofRonText? text : Option Settings).isSome = true) :
    ∃ d : Settings.Stated, ofRonText? text = some d ∧
      a.resolve readFile =
        if Settings.Unusable d.settings.tempName then .error (.invalidStem d.settings.tempName)
        else if Settings.Unusable (a.overlay d).tempName then
          .error (.invalidStem (a.overlay d).tempName)
        else .ok (a.overlay d) := by
  rw [Settings.ofRonText?_eq_stated, Option.isSome_map] at hparse
  obtain ⟨d, hstated⟩ := Option.isSome_iff_exists.mp hparse
  refine ⟨d, hstated, ?_⟩
  rw [resolve, baseSettings_of_file hsettings hread hstated, Settings.validate_eq d.settings]
  split
  · rfl
  · rw [← Settings.validate_eq, ← override_settings]
    rfl

/-- A file that states the stem alone, with a formula and a switch among the arguments. -/
theorem resolve_settingsFile_sine :
    (⟨some "1 sin", some "settings.ron", none, true, .text, false⟩ : Arguments).resolve
      (fun _ => .ok "(temp_attr_name: \"tmp\")") = .ok ⟨"1 sin", "tmp", false⟩ := by
  have hstated : ofRonText? "(temp_attr_name: \"tmp\")" =
      some (⟨none, some "tmp", none⟩ : Settings.Stated) := by
    decide +kernel
  obtain ⟨d, hd, hresolve⟩ := @resolve_settingsFile
    ⟨some "1 sin", some "settings.ron", none, true, .text, false⟩
    (fun _ => .ok "(temp_attr_name: \"tmp\")") "settings.ron" "(temp_attr_name: \"tmp\")" rfl rfl
    (by decide +kernel)
  cases hd.symm.trans hstated
  exact hresolve.trans (by decide)

/-- **A file is refused for its stem although the arguments give another one**, and although the
settings that would result can drive a compilation. -/
theorem resolve_unusableFile :
    ofList ["1 sin", "--temp-attr", "tmp", "--settings", "settings.ron"] =
        .ok ⟨some "1 sin", some "settings.ron", some "tmp", false, .text, false⟩ ∧
      ofRonText? "(temp_attr_name: \"\")" = some (⟨"4 5 *", "", true⟩ : Settings) ∧
      (override ⟨some "1 sin", some "settings.ron", some "tmp", false, .text, false⟩
        ⟨"4 5 *", "", true⟩).isValid = true ∧
      resolve ⟨some "1 sin", some "settings.ron", some "tmp", false, .text, false⟩
        (fun _ => .ok "(temp_attr_name: \"\")") = .error (.invalidStem "") := by
  refine ⟨?_, ?_, ?_, ?_⟩ <;> decide +kernel

end Arguments

end FormulaChain
