import FormulaChain.Single.Basic

/-!
# Stored values and their shapes

What is stored in a document is a datum: records, lists, choices and so on, down to numbers and
text, without regard to the notation. A shape says which data a document is expected to hold. A
notation can then write every datum and read a document by a shape (`Codec`).
-/

namespace FormulaChain

/-- A stored value. -/
inductive Datum where
  /-- A truth value. -/
  | bool (value : Bool)
  /-- A natural number. -/
  | natural (value : Nat)
  /-- A number. -/
  | single (value : Single)
  /-- A text. -/
  | text (value : String)
  /-- What a thing is known by. -/
  | identity (number : Nat)
  /-- A value that is absent. -/
  | absent
  /-- A value that might have been absent. -/
  | present (value : Datum)
  /-- Any number of values of one kind. -/
  | list (items : List Datum)
  /-- A fixed number of values of one kind. -/
  | array (items : List Datum)
  /-- Values under identities, in order. -/
  | table (entries : List (Nat × Datum))
  /-- Values under the names of fields, in order. -/
  | record (fields : List (String × Datum))
  /-- One of some names. -/
  | choice (name : String)
  /-- One of some names, with a value. -/
  | holding (name : String) (content : Datum)

/-- What a document is expected to hold. -/
inductive Shape where
  /-- A truth value. -/
  | bool
  /-- A natural number of 64 bits. -/
  | natural
  /-- A number. -/
  | single
  /-- A text. -/
  | text
  /-- An identity; the name is that of its type. -/
  | identity (name : String)
  /-- A value that may be absent. -/
  | optional (shape : Shape)
  /-- Any number of values. -/
  | list (shape : Shape)
  /-- As many values as given. -/
  | array (length : Nat) (shape : Shape)
  /-- Values under identities of a type. -/
  | table (key : String) (shape : Shape)
  /-- Fields with their shapes, some with a value to stand for a field that is missing; the name is
  that of the type. -/
  | record (name : String) (fields : List (String × Shape × Option Datum))
  /-- One of some names, each without a value or with one of a shape. -/
  | choice (variants : List (String × Option Shape))

namespace Shape

/-- What stands for a field of a shape that is missing from a document which names its fields. -/
def missing? : Shape → Option Datum
  | .optional _ => some .absent
  | _ => none

end Shape

/-- A notation for documents. -/
structure Codec where
  /-- Writes a datum, on one line or indented. -/
  write : (indented : Bool) → Datum → String
  /-- Reads a document of a shape. -/
  read? : Shape → String → Option Datum

end FormulaChain
