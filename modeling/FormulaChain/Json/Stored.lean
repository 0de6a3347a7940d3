import FormulaChain.Json.Reader
import FormulaChain.Storage.Datum
import FormulaChain.Text.Identity

/-!
# Data in JSON documents

How each datum is written, and how a document is read by a shape. Records are objects; a reader also
takes their values as a list in the order of the fields. Fields that are not known are left out of
account, fields that stand twice are refused. A choice is its name, or an object of its name and its
value. What is not finite is written as the empty value, which is no number.
-/

namespace FormulaChain

/-- A text of a document. -/
def Json.ofString (s : String) : Json := .string (Text.units s)

namespace Datum

mutual

/-- The document of a datum. -/
def toJson : Datum → Json
  | .bool value => .bool value
  | .natural value => .number (Nat.toDigits 10 value)
  | .single value => (Json.numeral? value).elim .null .number
  | .text value => .ofString value
  | .identity number => .ofString (Text.identityText number)
  | .absent => .null
  | .present value => value.toJson
  | .list items => .array (toJsonItems items)
  | .array items => .array (toJsonItems items)
  | .table entries => .object (toJsonEntries entries)
  | .record fields => .object (toJsonFields fields)
  | .choice name => .ofString name
  | .holding name content => .object [(Text.units name, content.toJson)]
termination_by structural d => d

/-- The documents of data in order. -/
def toJsonItems : List Datum → List Json
  | [] => []
  | item :: items => item.toJson :: toJsonItems items
termination_by structural items => items

/-- The members of a table. -/
def toJsonEntries : List (Nat × Datum) → List (List Nat × Json)
  | [] => []
  | (key, value) :: entries =>
    (Text.units (Text.identityText key), value.toJson) :: toJsonEntries entries
termination_by structural entries => entries

/-- The members of a record. -/
def toJsonFields : List (String × Datum) → List (List Nat × Json)
  | [] => []
  | (name, value) :: fields => (Text.units name, value.toJson) :: toJsonFields fields
termination_by structural fields => fields

end

end Datum

namespace Json

/-- The identity that code units write. -/
def identity? (units : List Nat) : Option Nat := (Text.ofUnits? units).bind Text.identityOfText?

/-- Members with their keys as text. -/
def named? (members : List (List Nat × Json)) : Option (List (String × Json)) :=
  members.mapM fun (key, value) => (Text.ofUnits? key).map (·, value)

mutual

/-- Reads a document by a shape. -/
def fit? : Shape → Json → Option Datum
  | .bool, .bool value => some (.bool value)
  | .natural, .number text => ((Number.read? text).bind (·.natural?)).map .natural
  | .single, .number text => (readSingle? text).map .single
  | .text, .string units => (Text.ofUnits? units).map .text
  | .identity _, .string units => (identity? units).map .identity
  | .optional _, .null => some .absent
  | .optional shape, j => (fit? shape j).map .present
  | .list shape, .array items => (items.mapM (fit? shape)).map .list
  | .array length shape, .array items =>
    if items.length = length then (items.mapM (fit? shape)).map .array else none
  | .table _ shape, .object members =>
    (members.mapM fun (key, value) => do return (← identity? key, ← fit? shape value)).map .table
  | .record _ fields, .object members => do return .record (← fitFields? fields (← named? members))
  | .record _ fields, .array items => (fitValues? fields items).map .record
  | .choice variants, .string units => do fitName? variants (← Text.ofUnits? units)
  | .choice variants, .object [(key, value)] => do fitVariant? variants (← Text.ofUnits? key) value
  | _, _ => none
termination_by structural shape => shape

/-- Reads fields by their names. -/
def fitFields? : List (String × Shape × Option Datum) → List (String × Json) →
    Option (List (String × Datum))
  | [], _ => some []
  | (name, shape, fallback) :: fields, members => do
    let value ← match members.filter (·.1 = name) with
      | [] => fallback.or shape.missing?
      | [(_, j)] => fit? shape j
      | _ => none
    return (name, value) :: (← fitFields? fields members)
termination_by structural fields => fields

/-- Reads fields from values in their order; those at the end may be missing if something stands for
them. -/
def fitValues? : List (String × Shape × Option Datum) → List Json → Option (List (String × Datum))
  | [], [] => some []
  | [], _ => none
  | (name, _, fallback) :: fields, [] => do
    return (name, ← fallback) :: (← fitValues? fields [])
  | (name, shape, _) :: fields, item :: items => do
    return (name, ← fit? shape item) :: (← fitValues? fields items)
termination_by structural fields => fields

/-- Reads a choice with a value. A name without a value takes the empty one. -/
def fitVariant? : List (String × Option Shape) → String → Json → Option Datum
  | [], _, _ => none
  | (name, none) :: variants, chosen, j =>
    if name = chosen then
      match j with
      | .null => some (.choice name)
      | _ => none
    else fitVariant? variants chosen j
  | (name, some shape) :: variants, chosen, j =>
    if name = chosen then (fit? shape j).map (.holding name) else fitVariant? variants chosen j
termination_by structural variants => variants

/-- Reads a choice without a value. -/
def fitName? : List (String × Option Shape) → String → Option Datum
  | [], _ => none
  | (name, content) :: variants, chosen =>
    if name = chosen then if content.isNone then some (.choice name) else none
    else fitName? variants chosen
termination_by structural variants => variants

end

/-- Data in JSON documents. -/
def codec : Codec where
  write indented d := if indented then d.toJson.pretty else d.toJson.compact
  read? shape text := (ofText? text).bind (fit? shape)

end Json

end FormulaChain
