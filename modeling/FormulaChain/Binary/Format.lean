/-!
# Binary floating-point formats

A binary format is fixed by the widths of its exponent field and of its fraction field. Every
magnitude of the format is a whole number of *units*, the unit being its least positive magnitude,
and the magnitudes are numbered in increasing order by their *rank*, which is also the bit pattern
of the magnitude. So decoding is arithmetic on natural numbers, and rounding a ratio to the format
is one exact comparison: the nearest rank, a half going to the even one.
-/

namespace FormulaChain

/-- A power of two. -/
def twoTo (n : Nat) : Nat := Nat.pow 2 n

/-- The quotient rounded to the nearest natural number, a half to the even neighbour. -/
def roundHalfEven (num den : Nat) : Nat :=
  if 2 * (num % den) < den then num / den
  else if den < 2 * (num % den) then num / den + 1
  else num / den + num / den % 2

/-- A binary interchange format: widths of the exponent and fraction fields. -/
structure BinaryFormat where
  /-- Bits of the biased exponent. -/
  exponentBits : Nat
  /-- Bits of the fraction, the leading one not counted. -/
  fractionBits : Nat
  deriving DecidableEq

namespace BinaryFormat

/-- The format of 32 bits. -/
def binary32 : BinaryFormat := ⟨8, 23⟩

/-- The format of 64 bits. -/
def binary64 : BinaryFormat := ⟨11, 52⟩

/-- The least positive magnitude is two to the power of minus this. -/
def unitExponent (f : BinaryFormat) : Nat :=
  twoTo (f.exponentBits - 1) - 2 + f.fractionBits

/-- The rank of infinity, just above the rank of every finite magnitude. -/
def infinityRank (f : BinaryFormat) : Nat :=
  (twoTo f.exponentBits - 1) * twoTo f.fractionBits

/-- The magnitude of a rank, counted in units. -/
def units (f : BinaryFormat) (rank : Nat) : Nat :=
  let binade := rank / twoTo f.fractionBits
  if binade = 0 then rank
  else (twoTo f.fractionBits + rank % twoTo f.fractionBits) * twoTo (binade - 1)

/-- The rank nearest to a ratio of units; a half goes to the even rank, and what lies above every
finite magnitude goes to infinity. -/
def nearestRank (f : BinaryFormat) (num den : Nat) : Nat :=
  let shift := (num / den).log2 - f.fractionBits
  min f.infinityRank (shift * twoTo f.fractionBits + roundHalfEven num (den * twoTo shift))

/-- The rank nearest to the number `num / den`. -/
def nearestRatio (f : BinaryFormat) (num den : Nat) : Nat :=
  f.nearestRank (num * twoTo f.unitExponent) den

/-- The rank nearest to the product of two magnitudes. -/
def multiply (f : BinaryFormat) (rank rank' : Nat) : Nat :=
  f.nearestRank (f.units rank * f.units rank') (twoTo f.unitExponent)

/-- The rank nearest to the quotient of two magnitudes. -/
def divide (f : BinaryFormat) (rank rank' : Nat) : Nat :=
  f.nearestRank (f.units rank * twoTo f.unitExponent) (f.units rank')

end BinaryFormat

end FormulaChain
