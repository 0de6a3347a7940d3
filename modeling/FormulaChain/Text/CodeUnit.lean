/-!
# Code units

Escapes in a document can write code units that are characters only in pairs: a leading unit
followed by a trailing one. A run of code points and such units is text if every unit is part of a
pair.
-/

namespace FormulaChain.Text

/-- Whether a unit is the first of a pair. -/
def isLeadingUnit (u : Nat) : Bool := 0xD800 ≤ u && u < 0xDC00

/-- Whether a unit is the second of a pair. -/
def isTrailingUnit (u : Nat) : Bool := 0xDC00 ≤ u && u < 0xE000

/-- The character that a leading and a trailing unit write. -/
def pairChar (leading trailing : Nat) : Char :=
  Char.ofNat (0x10000 + (leading - 0xD800) * 0x400 + (trailing - 0xDC00))

/-- The characters of a run of units. -/
def charsOfUnits? : List Nat → Option (List Char)
  | [] => some []
  | [u] => if isLeadingUnit u || isTrailingUnit u then none else some [Char.ofNat u]
  | u :: v :: rest =>
    if isLeadingUnit u then
      if isTrailingUnit v then (charsOfUnits? rest).map (pairChar u v :: ·) else none
    else if isTrailingUnit u then none
    else (charsOfUnits? (v :: rest)).map (Char.ofNat u :: ·)

/-- The text of a run of units. -/
def ofUnits? (units : List Nat) : Option String := (charsOfUnits? units).map String.ofList

/-- The units of a text, one for each character. -/
def units (text : String) : List Nat := text.toList.map Char.toNat

end FormulaChain.Text
