import FormulaChain.Graph.Identity
import FormulaChain.Json.Stored
import FormulaChain.Node.Socket
import FormulaChain.Ron.Stored
import FormulaChain.Table

/-!
# Storable types

A type is storable if its values can be turned into data of a shape and back. Such values can be
written in any notation and read from it (`textIn`, `ofTextIn?`); two are in use.
-/

namespace FormulaChain

/-- A type whose values can be stored. -/
class Storable (α : Type) where
  /-- The shape of the data. -/
  shape : Shape
  /-- The datum of a value. -/
  store : α → Datum
  /-- The value of a datum of the shape. -/
  restore? : Datum → Option α

namespace Storable

variable {α β : Type}

/-- A value in a document, on one line or indented. -/
def textIn [Storable α] (codec : Codec) (indented : Bool) (a : α) : String :=
  codec.write indented (store a)

/-- Reads a value from a document. -/
def ofTextIn? [Storable α] (codec : Codec) (text : String) : Option α :=
  (codec.read? (shape α) text).bind restore?

/-- A value on one line in a JSON document. -/
def jsonText [Storable α] (a : α) : String := textIn Json.codec false a

/-- A value indented in a JSON document. -/
def prettyJsonText [Storable α] (a : α) : String := textIn Json.codec true a

/-- A value on one line in a RON document. -/
def ronText [Storable α] (a : α) : String := textIn Ron.codec false a

/-- A value indented in a RON document. -/
def prettyRonText [Storable α] (a : α) : String := textIn Ron.codec true a

/-- Reads a value from a JSON document. -/
def ofJsonText? [Storable α] (text : String) : Option α := ofTextIn? Json.codec text

/-- Reads a value from a RON document. -/
def ofRonText? [Storable α] (text : String) : Option α := ofTextIn? Ron.codec text

/-! ### Simple types -/

instance : Storable Bool where
  shape := .bool
  store := .bool
  restore?
    | .bool value => some value
    | _ => none

instance : Storable Nat where
  shape := .natural
  store := .natural
  restore?
    | .natural value => some value
    | _ => none

instance : Storable Single where
  shape := .single
  store := .single
  restore?
    | .single value => some value
    | _ => none

instance : Storable String where
  shape := .text
  store := .text
  restore?
    | .text value => some value
    | _ => none

/-! ### Compound types -/

instance [Storable α] : Storable (Option α) where
  shape := .optional (shape α)
  store a := a.elim .absent fun a => .present (store a)
  restore?
    | .absent => some none
    | .present d => (restore? d).map some
    | _ => none

instance [Storable α] : Storable (List α) where
  shape := .list (shape α)
  store l := .list (l.map store)
  restore?
    | .list items => items.mapM restore?
    | _ => none

instance [Storable α] : Storable (α × α) where
  shape := .array 2 (shape α)
  store p := .array [store p.1, store p.2]
  restore?
    | .array [x, y] => do return (← restore? x, ← restore? y)
    | _ => none

instance : Storable Triple where
  shape := .array 3 (shape Single)
  store t := .array (t.toList.map store)
  restore?
    | .array [x, y, z] => do return ⟨← restore? x, ← restore? y, ← restore? z⟩
    | _ => none

/-! ### Choices and records -/

/-- The shape of a choice among names without values. -/
def namesShape (names : List String) : Shape := .choice (names.map (·, none))

/-- Values that are stored by their names. -/
abbrev ofNames (all : List α) (name : α → String) : Storable α where
  shape := namesShape (all.map name)
  store a := .choice (name a)
  restore?
    | .choice chosen => all.find? (name · = chosen)
    | _ => none

/-- A variant that holds a value of a type. -/
def variant (name : String) (β : Type) [Storable β] : String × Option Shape :=
  (name, some (shape β))

/-- A field of a type, which has to be there unless its value may be absent. -/
def field (name : String) (β : Type) [Storable β] : String × Shape × Option Datum :=
  (name, shape β, none)

/-- A field with a value that stands for it when it is missing. -/
def fieldOr [Storable β] (name : String) (fallback : β) : String × Shape × Option Datum :=
  (name, shape β, some (store fallback))

/-! ### Identities and tables -/

/-- A type of identities. -/
class Identified (K : Type) where
  /-- The name of the type in a document. -/
  typeName : String
  /-- The identity with a number. -/
  ofNumber : Nat → K
  /-- The number of an identity. -/
  number : K → Nat

instance : Identified NodeId := ⟨"NodeId", .mk, NodeId.number⟩
instance : Identified PortId := ⟨"PortId", .mk, PortId.number⟩
instance : Identified ConnectionId := ⟨"ConnectionId", .mk, ConnectionId.number⟩
instance : Identified FrameId := ⟨"FrameId", .mk, FrameId.number⟩

instance [Identified α] : Storable α where
  shape := .identity (Identified.typeName α)
  store a := .identity (Identified.number a)
  restore?
    | .identity number => some (Identified.ofNumber number)
    | _ => none

instance [Identified α] [DecidableEq α] [Storable β] : Storable (Table α β) where
  shape := .table (Identified.typeName α) (shape β)
  store t := .table (t.entries.map fun e => (Identified.number e.1, store e.2))
  restore?
    | .table entries => do
      return .ofList (← entries.mapM fun e => do return (Identified.ofNumber e.1, ← restore? e.2))
    | _ => none

end Storable

end FormulaChain
