import FormulaChain.Decimal.Numeral

/-!
# The shortest decimal that reads back

A magnitude of a binary format is written with the fewest digits that a reader takes back to it.
For each number of digits the two neighbours of the magnitude on that decimal grid are tried; of two
that read back the nearer is chosen, and an exact tie goes as the format of the text says. What is
found reads back because the reader itself was asked.
-/

namespace FormulaChain

/-- Which of two equally near digits is written. -/
inductive DecimalTie where
  /-- The larger neighbour. -/
  | up
  /-- The neighbour whose last digit is even. -/
  | toEven
  deriving DecidableEq

namespace Decimal

/-- The exponent `k` with `10 ^ (k - 1) ≤ num / den < 10 ^ k`, for a positive ratio. -/
def topExponent (num den : Nat) : Int :=
  if den ≤ num then digitCount (num / den)
  else 1 - (digitCount ((den - 1) / num) : Int)

/-- The neighbours of a ratio on the grid of `10 ^ exponent`: the one below, and whether the ratio
lies below, on or above the middle between it and the next. -/
def below (num den : Nat) (exponent : Int) : Nat × Ordering :=
  let n := num * tenTo (-exponent).toNat
  let d := den * tenTo exponent.toNat
  (n / d, compare (2 * (n % d)) d)

/-- The neighbour on the grid of `digits` digits that reads back and is the nearer of those that
do. -/
def onGrid? (readsBack : Decimal → Bool) (tie : DecimalTie) (num den digits : Nat) :
    Option Decimal :=
  let exponent := topExponent num den - digits
  let (floor, side) := below num den exponent
  let low : Decimal := ⟨floor, exponent⟩
  let high : Decimal := ⟨floor + 1, exponent⟩
  let preferHigh := match side with
    | .lt => false
    | .gt => true
    | .eq => match tie with
      | .up => true
      | .toEven => floor % 2 == 1
  let (first, second) := if preferHigh then (high, low) else (low, high)
  if readsBack first then some first
  else if readsBack second then some second
  else none

/-- The first grid, from `digits` digits on, with a decimal that reads back. -/
def firstGrid? (readsBack : Decimal → Bool) (tie : DecimalTie) (num den : Nat) :
    (digits fuel : Nat) → Option Decimal
  | _, 0 => none
  | digits, fuel + 1 =>
    (onGrid? readsBack tie num den digits).or
      (firstGrid? readsBack tie num den (digits + 1) fuel)

/-- The shortest decimal for the positive ratio `num / den` that reads back, at most seventeen
digits long; `exact` stands where no such decimal reads back. -/
def shortest (readsBack : Decimal → Bool) (tie : DecimalTie) (num den : Nat) (exact : Decimal) :
    Decimal :=
  ((firstGrid? readsBack tie num den 1 17).getD exact).normalize

end Decimal

end FormulaChain
