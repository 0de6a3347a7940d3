import FormulaChain.Text.Blank
import FormulaChain.Text.Quoted

/-!
# Settings

What a compilation needs besides the graph: the formula, the stem of the names of intermediate
results, and whether the nodes are put into a frame.
-/

namespace FormulaChain

/-- The settings of a compilation. -/
structure Settings where
  /-- The formula in postfix order. -/
  formula : String
  /-- The stem of the names of intermediate results. -/
  tempName : String
  /-- Whether the nodes are put into a frame labelled with the formula. -/
  addFrame : Bool
  deriving DecidableEq

namespace Settings

/-- The settings of a new user. -/
def default : Settings := ⟨"4 5 *", "mf_temp", true⟩

instance : Inhabited Settings := ⟨default⟩

/-- Whether a stem can be used: a word that is empty or holds a blank could never be written in a
formula. -/
def validStem (stem : String) : Bool :=
  !stem.isEmpty && !stem.toList.any Text.isBlank

/-- Whether settings can drive a compilation. -/
def isValid (s : Settings) : Bool := validStem s.tempName

end Settings

/-- The report of a stem that cannot be used. -/
def invalidStemMessage (stem : String) : String :=
  "invalid temporary attribute name " ++ Text.quoted stem ++
    ": must be non-empty and contain no spaces"

end FormulaChain
