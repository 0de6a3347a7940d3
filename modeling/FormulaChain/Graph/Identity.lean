/-!
# Identities

Nodes, ports, connections and frames are known by numbers of 128 bits, which are written as text of
32 hexadecimal digits in groups of 8, 4, 4, 4 and 12. All four kinds draw from the same numbers, so
that a number names one thing at most. What is made gets numbers that all differ (`Numbering`).
-/

namespace FormulaChain

/-- What a node is known by. -/
structure NodeId where
  /-- The number. -/
  number : Nat
  deriving DecidableEq

/-- What a port is known by. -/
structure PortId where
  /-- The number. -/
  number : Nat
  deriving DecidableEq

/-- What a connection is known by. -/
structure ConnectionId where
  /-- The number. -/
  number : Nat
  deriving DecidableEq

/-- What a frame is known by. -/
structure FrameId where
  /-- The number. -/
  number : Nat
  deriving DecidableEq

/-- Numbers for a new thing and its parts, no two of them alike. -/
structure Numbering where
  /-- The numbers in order. -/
  number : Nat → Nat
  /-- They differ. -/
  injective : Function.Injective number

namespace Numbering

/-- The first number. -/
def first (numbers : Numbering) : Nat := numbers.number 0

/-- Consecutive numbers. -/
def consecutive (first : Nat) : Numbering where
  number i := first + i
  injective _ _ h := Nat.add_left_cancel h

instance : Coe Nat Numbering := ⟨consecutive⟩

end Numbering

end FormulaChain
