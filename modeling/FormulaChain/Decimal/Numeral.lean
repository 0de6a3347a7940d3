import FormulaChain.Binary.Format

/-!
# Decimal numerals

A decimal is a whole significand times a power of ten. This module reads the numerals that formulas
and stored data use, digits with an optional point and an optional exponent, and finds the nearest
magnitude of a binary format.
-/

namespace FormulaChain

/-- The number `significand * 10 ^ exponent`. -/
structure Decimal where
  /-- The digits, read as a whole number. -/
  significand : Nat
  /-- The power of ten they are scaled by. -/
  exponent : Int
  deriving DecidableEq

/-- A power of ten. -/
def tenTo (n : Nat) : Nat := Nat.pow 10 n

/-- The whole number that a run of digits writes, after the digits already read. -/
def digitsValue (digits : List Char) : Nat :=
  digits.foldl (fun n c => 10 * n + (c.toNat - '0'.toNat)) 0

/-- How many decimal digits a whole number has; zero has one. -/
def digitCount (n : Nat) : Nat := (Nat.toDigits 10 n).length

namespace Decimal

/-- The numerator of a decimal written as a ratio. -/
def numerator (d : Decimal) : Nat := d.significand * tenTo d.exponent.toNat

/-- The denominator of a decimal written as a ratio. -/
def denominator (d : Decimal) : Nat := tenTo (-d.exponent).toNat

/-- The rank of the magnitude of `f` nearest to a decimal. A decimal too large or too small for any
finite positive magnitude is settled by its number of digits, without its powers. -/
def nearestRank (f : BinaryFormat) (d : Decimal) : Nat :=
  let digits := digitCount d.significand
  if d.significand = 0 then 0
  else if d.exponent + digits > twoTo (f.exponentBits - 1) then f.infinityRank
  else if d.exponent + digits + f.unitExponent + 1 < 0 then 0
  else f.nearestRatio d.numerator d.denominator

/-- Drops the factors of ten of a significand into the exponent. -/
def strip (significand : Nat) (exponent : Int) : Decimal :=
  if 0 < significand ∧ significand % 10 = 0 then strip (significand / 10) (exponent + 1)
  else ⟨significand, exponent⟩
termination_by significand
decreasing_by omega

/-- The same number without trailing zeros in its significand. -/
def normalize (d : Decimal) : Decimal := strip d.significand d.exponent

/-- Reads the exponent of a numeral: nothing, or a mark, an optional sign and digits. -/
def readExponent : List Char → Option Int
  | [] => some 0
  | mark :: rest =>
    if mark = 'e' ∨ mark = 'E' then
      let (negative, digits) := match rest with
        | '-' :: digits => (true, digits)
        | '+' :: digits => (false, digits)
        | digits => (false, digits)
      if digits ≠ [] ∧ digits.all Char.isDigit then
        some (if negative then -(digitsValue digits : Int) else digitsValue digits)
      else none
    else none

/-- Reads an unsigned numeral: digits with an optional point among, before or after them, at least
one digit in all, then an optional exponent. -/
def read? (text : List Char) : Option Decimal :=
  let whole := text.takeWhile Char.isDigit
  let afterWhole := text.dropWhile Char.isDigit
  let (fraction, rest) := match afterWhole with
    | '.' :: rest => (rest.takeWhile Char.isDigit, rest.dropWhile Char.isDigit)
    | rest => ([], rest)
  if whole ++ fraction = [] then none
  else (readExponent rest).map fun e =>
    ⟨digitsValue (whole ++ fraction), e - fraction.length⟩

end Decimal

end FormulaChain
