import FormulaChain.Graph.Identity
import FormulaChain.Node.Socket

/-!
# Ports

A port is where a connection leaves or enters a node. It has a type, and an input port may hold a
default value of that type. Numbers are broadcast into vectors, so a number may flow into a vector
port; otherwise the types on both ends of a connection are equal.
-/

namespace FormulaChain

/-- The side of a node that a port is on. -/
inductive PortDirection where
  /-- Where connections enter. -/
  | input
  /-- Where connections leave. -/
  | output
  deriving DecidableEq

/-- The name of a direction. -/
def PortDirection.text : PortDirection → String
  | .input => "Input"
  | .output => "Output"

/-- What flows through a port. -/
inductive PortType where
  /-- Geometry, passed along a chain. -/
  | geometry
  /-- Numbers. -/
  | float
  /-- Vectors of three numbers. -/
  | vector
  /-- Text, for attribute names. -/
  | text
  deriving DecidableEq

namespace PortType

/-- All types. -/
def all : List PortType := [.geometry, .float, .vector, .text]

/-- The name of a type. -/
def name : PortType → String
  | .geometry => "Geometry"
  | .float => "Float"
  | .vector => "Vector3"
  | .text => "String"

/-- Whether what flows out of a port of the first type may flow into one of the second. -/
def canConnectTo (source target : PortType) : Bool :=
  source = target || (source = .float && target = .vector)

end PortType

/-- The type of port that holds a value. -/
def SocketValue.portType : SocketValue → PortType
  | .float _ => .float
  | .vector _ => .vector
  | .text _ => .text

/-- A port of a node. -/
structure Port where
  /-- What it is known by. -/
  id : PortId
  /-- The name shown. -/
  name : String
  /-- The side it is on. -/
  direction : PortDirection
  /-- What flows through it. -/
  type : PortType
  /-- The value used while nothing is connected. -/
  defaultValue : Option SocketValue
  /-- Whether several connections may enter. -/
  acceptsMany : Bool
  deriving DecidableEq

/-- A value that does not fit a port. -/
structure PortValueError where
  /-- The name of the port. -/
  port : String
  /-- The type of the port. -/
  expected : PortType
  /-- The type of the value. -/
  found : PortType
  deriving DecidableEq

/-- The text of a value that does not fit. -/
def PortValueError.message (e : PortValueError) : String :=
  "port `" ++ e.port ++ "` holds " ++ e.expected.name ++ " values, got " ++ e.found.name

namespace Port

/-- An input port, which takes one connection. -/
def input (id : PortId) (name : String) (type : PortType) (value : Option SocketValue) : Port :=
  ⟨id, name, .input, type, value, false⟩

/-- An output port, from which any number of connections leave. -/
def output (id : PortId) (name : String) (type : PortType) : Port :=
  ⟨id, name, .output, type, none, true⟩

/-- The port of a new node that is modelled on a port. -/
def instantiate (p : Port) (id : PortId) : Port := { p with id := id }

/-- Whether two ports may be connected, the first being where the connection leaves. -/
def canConnect (source target : Port) : Bool :=
  source.direction ≠ target.direction && source.type.canConnectTo target.type

/-- Stores a default value, which must have the type of the port. -/
def setDefault (p : Port) (value : SocketValue) : Except PortValueError Port :=
  if value.portType = p.type then .ok { p with defaultValue := some value }
  else .error ⟨p.name, p.type, value.portType⟩

end Port

end FormulaChain
