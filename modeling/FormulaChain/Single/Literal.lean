import FormulaChain.Decimal.Numeral
import FormulaChain.Single.Basic

/-!
# Number literals

Which words of a formula are numbers: an optional sign before a decimal numeral, or before one of
the words for infinity and "not a number" in any letter case. A numeral is the number nearest to it.
-/

namespace FormulaChain

namespace Single

/-- The number nearest to a signed decimal. -/
def ofDecimal (negative : Bool) (d : Decimal) : Single :=
  ofRank negative (d.nearestRank .binary32)

/-- The words for the numbers that no numeral writes. -/
def ofWord? (negative : Bool) (text : List Char) : Option Single :=
  let lower := text.map Char.toLower
  if lower = "inf".toList ∨ lower = "infinity".toList then some (.infinite negative)
  else if lower = "nan".toList then some (.nan negative)
  else none

/-- The number that a word or a numeral without its sign writes. -/
def ofUnsigned? (negative : Bool) (text : List Char) : Option Single :=
  (ofWord? negative text).or ((Decimal.read? text).map (ofDecimal negative))

/-- The number that a list of characters writes, all of it. -/
def ofChars? : List Char → Option Single
  | '-' :: text => ofUnsigned? true text
  | '+' :: text => ofUnsigned? false text
  | text => ofUnsigned? false text

/-- The number that a text writes. -/
def ofText? (text : String) : Option Single := ofChars? text.toList

end Single

end FormulaChain
