import FormulaChain.Text.Blank

/-!
# Words of a formula

A formula is a sequence of words. Spaces and the four grouping brackets separate words and mean
nothing else; what is empty or blank between two separators is no word. Parentheses belong to words,
since they delimit vector literals.

`tokenize` cuts the formula in one pass. Beside it stands the plain description `tokenizeBySpaces`:
brackets become spaces, the text is split at every space, blank pieces are dropped.
-/

namespace FormulaChain

/-- Brackets that only group a formula for the eye. -/
def groupingMarkers : List Char := ['[', ']', '\x7b', '\x7d']

/-- The word after which a formula names its result. -/
def resultArrow : String := "->"

/-- Whether a character separates words. -/
def isSeparator (c : Char) : Bool := c = ' ' || groupingMarkers.contains c

/-- Cuts a text at every character of a class; between `n` cuts lie `n + 1` pieces. -/
def splitAtAll (cut : Char → Bool) : List Char → List (List Char)
  | [] => [[]]
  | c :: rest =>
    if cut c then [] :: splitAtAll cut rest
    else match splitAtAll cut rest with
      | piece :: pieces => (c :: piece) :: pieces
      | [] => [[c]]

/-- Whether a piece between two cuts is a word. -/
def isWord (piece : List Char) : Bool := !piece.all Text.isBlank

/-- The words of a formula in order. -/
def tokenize (formula : String) : List String :=
  ((splitAtAll isSeparator formula.toList).filter isWord).map String.ofList

/-- The words of a formula by their plain description. -/
def tokenizeBySpaces (formula : String) : List String :=
  let spaced := formula.toList.map fun c => if groupingMarkers.contains c then ' ' else c
  ((splitAtAll (· = ' ') spaced).filter isWord).map String.ofList

end FormulaChain
