import FormulaChain.Decimal.Shortest
import FormulaChain.Single.Literal

/-!
# Writing numbers

A number is written with the shortest digits that read back as the same number. What differs between
the texts of this library is only the style: which magnitudes are positional, whether a whole number
keeps a fraction, the sign of an exponent, and how a tie between two digits goes.
-/

namespace FormulaChain

/-- How a number is laid out. -/
structure NumeralStyle where
  /-- The least power of ten of a first digit that is written positionally; none if all are. -/
  leastPositional : Option Int
  /-- The greatest power of ten of a first digit that is written positionally; none if all are. -/
  greatestPositional : Option Int
  /-- Whether a whole number written positionally keeps a zero fraction. -/
  zeroFraction : Bool
  /-- Whether an exponent without a minus carries a plus. -/
  plusExponent : Bool
  /-- Which of two equally near digits is written. -/
  tie : DecimalTie
  deriving DecidableEq

namespace NumeralStyle

/-- Numbers inside messages and attribute texts: always a fraction or an exponent, positional from
one ten-thousandth up to below ten to the sixteenth. -/
def literal : NumeralStyle := ⟨some (-4), some 15, true, false, .up⟩

/-- Numbers in a report: always positional, whole numbers without a fraction. -/
def plain : NumeralStyle := ⟨none, none, false, false, .up⟩

/-- Whether digits that begin at this power of ten are written positionally. -/
def isPositional (style : NumeralStyle) (power : Int) : Bool :=
  style.leastPositional.all (· ≤ power) && style.greatestPositional.all (power ≤ ·)

/-- Digits written positionally, the point after `point` of them. -/
def positional (style : NumeralStyle) (digits : List Char) (point : Int) : List Char :=
  let zeros (n : Int) : List Char := List.replicate n.toNat '0'
  if digits.length ≤ point then
    digits ++ zeros (point - digits.length) ++ (if style.zeroFraction then ".0".toList else [])
  else if 0 < point then digits.take point.toNat ++ '.' :: digits.drop point.toNat
  else "0.".toList ++ zeros (-point) ++ digits

/-- Digits written with an exponent, the point after the first. -/
def scientific (style : NumeralStyle) (digits : List Char) (power : Int) : List Char :=
  let mantissa := match digits with
    | first :: second :: rest => first :: '.' :: second :: rest
    | digits => digits
  let sign := if power < 0 then "-" else if style.plusExponent then "+" else ""
  mantissa ++ 'e' :: sign.toList ++ Nat.toDigits 10 power.natAbs

/-- A decimal without trailing zeros, laid out in a style. -/
def layout (style : NumeralStyle) (d : Decimal) : List Char :=
  if d.significand = 0 then
    if style.zeroFraction then "0.0".toList else "0".toList
  else
    let digits := Nat.toDigits 10 d.significand
    let point := d.exponent + digits.length
    if style.isPositional (point - 1) then style.positional digits point
    else style.scientific digits (point - 1)

end NumeralStyle

namespace Single

/-- The exact decimal of a magnitude: a unit is two to the power of -149, that is five to the power
of 149 over ten to the power of 149. -/
def exactDecimal (rank : Nat) : Decimal :=
  ⟨BinaryFormat.binary32.units rank * Nat.pow 5 BinaryFormat.binary32.unitExponent,
    -(BinaryFormat.binary32.unitExponent : Int)⟩

/-- The shortest decimal of a magnitude that a reader takes back to it. -/
def shortestDecimal (readsBack : Decimal → Bool) (tie : DecimalTie) (rank : Nat) : Decimal :=
  if rank = 0 then ⟨0, 0⟩
  else Decimal.shortest readsBack tie (BinaryFormat.binary32.units rank)
    (twoTo BinaryFormat.binary32.unitExponent) (exactDecimal rank)

/-- Whether a decimal is read as the magnitude of a rank. -/
def readsAs (rank : Nat) (d : Decimal) : Bool :=
  d.nearestRank .binary32 == rank

/-- The text of a number in a style. That of "not a number" shows no sign. -/
def toText (style : NumeralStyle) : Single → String
  | .nan _ => "NaN"
  | .infinite negative => if negative then "-inf" else "inf"
  | .finite negative rank =>
    let digits := style.layout (shortestDecimal (readsAs rank) style.tie rank)
    String.ofList (if negative then '-' :: digits else digits)

/-- The text of a number inside messages and attribute texts. -/
def literalText (s : Single) : String := s.toText .literal

/-- The text of a number in a report. -/
def plainText (s : Single) : String := s.toText .plain

end Single

namespace Triple

/-- The text of a vector that has to stand for an attribute name. -/
def attributeText (t : Triple) : String :=
  "[" ++ ", ".intercalate (t.toList.map Single.literalText) ++ "]"

end Triple

end FormulaChain
