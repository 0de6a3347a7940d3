import FormulaChain.Formula.Operand
import FormulaChain.Node.Socket

/-!
# Binding operands to sockets

Each operand of an operator is bound to a slot of its node: the kind of the slot is chosen and the
operand is written into the socket of that kind. A node has three slots, so at most three operands
are bound.
-/

namespace FormulaChain

/-- How one operand is bound. -/
structure Binding where
  /-- The slot of the operand. -/
  slot : Slot
  /-- The kind chosen for the slot. -/
  kind : InputKind
  /-- The socket the value is written to. -/
  socket : Socket
  /-- The value written. -/
  value : SocketValue
  deriving DecidableEq

namespace Binding

/-- An attribute name bound to a slot. -/
def named (slot : Slot) (name : String) : Binding :=
  ⟨slot, .named, .named slot, .text name⟩

/-- A number bound to a slot. -/
def float (slot : Slot) (value : Single) : Binding :=
  ⟨slot, .float, .float slot, .float value⟩

/-- A vector bound to a slot. -/
def vector (slot : Slot) (value : Triple) : Binding :=
  ⟨slot, .vector, .vector slot, .vector value⟩

/-- An operand of a scalar operation: a number is a literal, a name an attribute, and a vector is
written as the text of an attribute. -/
def ofScalar (slot : Slot) : Operand → Binding
  | .scalar s => .float slot s
  | .vector t => .named slot t.attributeText
  | .reference name => .named slot name

/-- Whether an operand of a vector operation is a number: the factor of a scaling. -/
def isFactor (operation : VectorOperation) (slot : Slot) : Bool :=
  operation = .scale && slot = .b

/-- An operand of a vector operation: numbers are broadcast to vectors, a name is an attribute. The
factor of a scaling is bound as an operand of a scalar operation is. -/
def ofVector (operation : VectorOperation) (slot : Slot) (operand : Operand) : Binding :=
  if isFactor operation slot then ofScalar slot operand
  else match operand.broadcast with
    | some t => .vector slot t
    | none => .named slot operand.text

/-- An operand of an operation. -/
def ofOperand : Operation → Slot → Operand → Binding
  | .scalar _, slot, operand => ofScalar slot operand
  | .vector o, slot, operand => ofVector o slot operand

end Binding

/-- Binds operands to the slots in order. -/
def Operation.bind (operation : Operation) (args : List Operand) : List Binding :=
  List.zipWith (Binding.ofOperand operation) Slot.all args

end FormulaChain
