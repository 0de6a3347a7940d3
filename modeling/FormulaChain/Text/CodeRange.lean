/-!
# Ranges of characters

Properties of characters are tables of ranges of code points.
-/

namespace FormulaChain.Text

/-- A first and a last code point. -/
abbrev CodeRange := Nat × Nat

/-- Whether some range of a table holds a character. -/
def CodeRange.covers (table : List CodeRange) (c : Char) : Bool :=
  table.any fun range => range.1 ≤ c.toNat && c.toNat ≤ range.2

end FormulaChain.Text
