import FormulaChain.Operation
import FormulaChain.Single.Basic

/-!
# Sockets of attribute math nodes

A node has three operand slots. Each slot can take its operand from a named attribute or from a
literal, which is chosen by the input kind of the slot, and has a socket for each. Besides, a node
passes geometry through and writes its result to the attribute named in its result socket.
-/

namespace FormulaChain

/-- The kinds of node that formulas are compiled to. -/
inductive NodeKind where
  /-- Operations on numbers. -/
  | attributeMath
  /-- Operations on vectors. -/
  | attributeVectorMath
  deriving DecidableEq

namespace NodeKind

/-- All kinds. -/
def all : List NodeKind := [.attributeMath, .attributeVectorMath]

/-- The kind of node that performs the operations of a domain. -/
def ofDomain : Domain → NodeKind
  | .scalar => .attributeMath
  | .vector => .attributeVectorMath

/-- The identifier of the node type in a registry. -/
def typeId : NodeKind → String
  | .attributeMath => "attribute_math"
  | .attributeVectorMath => "attribute_vector_math"

/-- The name of a kind of node. -/
def text : NodeKind → String
  | .attributeMath => "AttributeMath"
  | .attributeVectorMath => "AttributeVectorMath"

end NodeKind

/-- The kind of node that performs an operation. -/
def Operation.nodeKind (o : Operation) : NodeKind := .ofDomain o.domain

/-- The place of an operand. -/
inductive Slot where
  /-- First operand. -/
  | a
  /-- Second operand. -/
  | b
  /-- Third operand. -/
  | c
  deriving DecidableEq

namespace Slot

/-- The slots in order. -/
def all : List Slot := [.a, .b, .c]

/-- The letter of a slot in socket names. -/
def text : Slot → String
  | .a => "A"
  | .b => "B"
  | .c => "C"

end Slot

/-- Where a slot takes its operand from. -/
inductive InputKind where
  /-- A named attribute of the geometry. -/
  | named
  /-- A literal number. -/
  | float
  /-- A literal vector. -/
  | vector
  deriving DecidableEq

namespace InputKind

/-- All input kinds. -/
def all : List InputKind := [.named, .float, .vector]

/-- The name of an input kind. -/
def text : InputKind → String
  | .named => "Attribute"
  | .float => "Float"
  | .vector => "Vector"

end InputKind

/-- The input kind chosen for each slot, if any. -/
structure InputKinds where
  /-- Kind of the first operand. -/
  a : Option InputKind
  /-- Kind of the second operand. -/
  b : Option InputKind
  /-- Kind of the third operand. -/
  c : Option InputKind
  deriving DecidableEq

namespace InputKinds

/-- No kind chosen. -/
def unset : InputKinds := ⟨none, none, none⟩

/-- The kind chosen for a slot. -/
def get (k : InputKinds) : Slot → Option InputKind
  | .a => k.a
  | .b => k.b
  | .c => k.c

/-- Chooses the kind of a slot. -/
def set (k : InputKinds) (slot : Slot) (kind : InputKind) : InputKinds :=
  match slot with
  | .a => { k with a := some kind }
  | .b => { k with b := some kind }
  | .c => { k with c := some kind }

/-- The kinds in the order of the slots. -/
def toList (k : InputKinds) : List (Option InputKind) := [k.a, k.b, k.c]

end InputKinds

/-- Name of the geometry socket on both sides of a node. -/
def geometrySocketName : String := "Geometry"

/-- Input sockets of the attribute math nodes. -/
inductive Socket where
  /-- Geometry passed through. -/
  | geometry
  /-- Attribute name of an operand. -/
  | named (slot : Slot)
  /-- Literal number of an operand. -/
  | float (slot : Slot)
  /-- Literal vector of an operand. -/
  | vector (slot : Slot)
  /-- Name of the attribute that the result is written to. -/
  | result
  deriving DecidableEq

namespace Socket

/-- The name of a socket as it stands on the node. -/
def name : Socket → String
  | .geometry => geometrySocketName
  | .named slot => slot.text ++ " Attribute"
  | .float slot => slot.text ++ " Float"
  | .vector slot => slot.text ++ " Vector"
  | .result => "Result"

/-- All sockets. -/
def all : List Socket :=
  .geometry :: Slot.all.map .named ++ Slot.all.map .float ++ Slot.all.map .vector ++ [.result]

/-- The socket with a name. -/
def ofName? (name : String) : Option Socket := all.find? (·.name = name)

/-- The literal or attribute socket of a slot that an input kind reads. -/
def ofKind (slot : Slot) : InputKind → Socket
  | .named => .named slot
  | .float => .float slot
  | .vector => .vector slot

end Socket

/-- Output sockets of the attribute math nodes. -/
inductive OutputSocket where
  /-- Geometry passed through. -/
  | geometry
  deriving DecidableEq

/-- The name of an output socket as it stands on the node. -/
def OutputSocket.name : OutputSocket → String
  | .geometry => geometrySocketName

/-- A default value written into a socket. -/
inductive SocketValue where
  /-- A literal number. -/
  | float (value : Single)
  /-- A literal vector. -/
  | vector (value : Triple)
  /-- An attribute name. -/
  | text (value : String)
  deriving DecidableEq

/-- Where a node stands and how wide it is drawn. -/
structure NodeLayout where
  /-- Top left corner. -/
  position : Planar
  /-- Drawn width. -/
  width : Single
  deriving DecidableEq

/-- Width of a freshly created node. -/
def defaultNodeWidth : Single := .ofNat 140

/-- Space left between two consecutive nodes. -/
def nodeGap : Single := .ofNat 50

/-- Position of the first node. -/
def originPosition : Planar := (.zero, .zero)

end FormulaChain
