import FormulaChain.Binary.Format

/-!
# Single-precision numbers

The numbers of a formula: signed magnitudes of the 32-bit binary format, the two infinities and "not
a number" with a sign. A finite number is kept as its sign and the rank of its magnitude, so that
equality of numbers is equality of bit patterns, both zeros included.
-/

namespace FormulaChain

/-- A number of the 32-bit binary format; the payloads of "not a number" are not told apart. -/
inductive Single where
  /-- Not a number. -/
  | nan (negative : Bool)
  /-- An infinity. -/
  | infinite (negative : Bool)
  /-- A sign and the rank of a finite magnitude, which lies below the rank of infinity. -/
  | finite (negative : Bool) (rank : Fin 0x7F800000)
  deriving DecidableEq

namespace Single

/-- The signed magnitude of a rank; from the rank of infinity on it is infinite. -/
def ofRank (negative : Bool) (rank : Nat) : Single :=
  if h : rank < 0x7F800000 then .finite negative ⟨rank, h⟩ else .infinite negative

/-- Positive zero. -/
def zero : Single := .finite false ⟨0, by decide⟩

instance : Inhabited Single := ⟨zero⟩

/-- The signed number nearest to `num / den`. -/
def ofRatio (negative : Bool) (num den : Nat) : Single :=
  ofRank negative (BinaryFormat.binary32.nearestRatio num den)

/-- The number nearest to a whole number. -/
def ofNat (n : Nat) : Single := ofRatio false n 1

/-- Whether a number is neither infinite nor "not a number". -/
def isFinite : Single → Bool
  | .finite _ _ => true
  | _ => false

/-- The value of a finite number, counted in units of the format. -/
def signedUnits (negative : Bool) (rank : Nat) : Int :=
  if negative then -(BinaryFormat.binary32.units rank : Int) else BinaryFormat.binary32.units rank

/-- The sum rounded to the nearest number. Zeros of both signs, and opposite numbers, add up to
positive zero; opposite infinities have no sum, and what is not a number stays as it is. -/
def add : Single → Single → Single
  | .finite n r, .finite n' r' =>
    let sum := signedUnits n r + signedUnits n' r'
    if sum = 0 then .finite (n && n') ⟨0, by decide⟩
    else ofRank (sum < 0) (BinaryFormat.binary32.nearestRank sum.natAbs 1)
  | .nan n, _ => .nan n
  | _, .nan n => .nan n
  | .infinite n, .infinite n' => if n = n' then .infinite n else .nan true
  | .infinite n, .finite _ _ => .infinite n
  | .finite _ _, .infinite n => .infinite n

instance : Add Single := ⟨add⟩

/-- The bit pattern, except of "not a number", which has many. -/
def bits? : Single → Option Nat
  | .nan _ => none
  | .infinite n => some ((if n then twoTo 31 else 0) + 0x7F800000)
  | .finite n r => some ((if n then twoTo 31 else 0) + r)

end Single

/-- A point or an extent in the plane of a node editor. -/
abbrev Planar := Single × Single

/-- Three components, as a vector literal writes them. -/
structure Triple where
  /-- First component. -/
  x : Single
  /-- Second component. -/
  y : Single
  /-- Third component. -/
  z : Single
  deriving DecidableEq, Inhabited

namespace Triple

/-- The same number in all three components. -/
def splat (s : Single) : Triple := ⟨s, s, s⟩

/-- The components in order. -/
def toList (t : Triple) : List Single := [t.x, t.y, t.z]

end Triple

end FormulaChain
