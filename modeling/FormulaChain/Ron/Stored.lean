import FormulaChain.Ron.Basic
import FormulaChain.Ron.Ignored
import FormulaChain.Storage.Datum
import FormulaChain.Text.Identity

/-!
# Data in RON documents

How each datum is written, and how a document is read by a shape. Records are named fields, with the
name of their type in front if one likes; fields that are not known are left out of account, fields
that stand twice are refused. Identities are in parentheses, arrays are groups, and a value that may
be absent is marked when it is present.
-/

namespace FormulaChain

namespace Datum

/-- The name that a truth value is written by. -/
def truthName (value : Bool) : String := if value then "true" else "false"

mutual

/-- The document of a datum. -/
def toRon : Datum → Ron
  | .bool value => .word (truthName value)
  | .natural value => .number (Nat.toDigits 10 value)
  | .single value => .number (Ron.numeral value)
  | .text value => .string value
  | .identity number => .group none [.string (Text.identityText number)]
  | .absent => .word "None"
  | .present value => .group (some "Some") [value.toRon]
  | .list items => .list (toRonItems items)
  | .array items => .group none (toRonItems items)
  | .table entries => .map (toRonEntries entries)
  | .record fields => .record none (toRonFields fields)
  | .choice name => .word name
  | .holding name content => .group (some name) [content.toRon]
termination_by structural d => d

/-- The documents of data in order. -/
def toRonItems : List Datum → List Ron
  | [] => []
  | item :: items => item.toRon :: toRonItems items
termination_by structural items => items

/-- The entries of a table. -/
def toRonEntries : List (Nat × Datum) → List (Ron × Ron)
  | [] => []
  | (key, value) :: entries =>
    (.group none [.string (Text.identityText key)], value.toRon) :: toRonEntries entries
termination_by structural entries => entries

/-- The fields of a record. -/
def toRonFields : List (String × Datum) → List (String × Ron)
  | [] => []
  | (name, value) :: fields => (name, value.toRon) :: toRonFields fields
termination_by structural fields => fields

end

end Datum

namespace Ron

variable {α : Type}

/-! ### Parts of a document that a shape names -/

/-- Leaves out the name of a type, if there is one; it has to be the right one, and has to be there
if documents name their types. -/
def skipTypeName? (extensions : List Extension) (type : String) (text : List Char) :
    Option (List Char) :=
  if text.head?.any Text.continuesIdentifier then
    match readName? text with
    | some (name, rest) => if name = type then some rest else none
    | none => none
  else if .typeNames ∈ extensions then none
  else some text

/-- Reads a truth value. -/
def readBool? : Reader Bool := fun text =>
  match skipWord? "true" text with
  | some rest => some (true, rest)
  | none => (skipWord? "false" text).map (false, ·)

/-- Reads a number by a reading of its characters. -/
def readNumber? (number? : List Char → Option α) : Reader α := fun text =>
  (number? (text.takeWhile isNumeric)).map (·, text.dropWhile isNumeric)

/-- Reads a text. -/
def readString? : Reader String := fun text =>
  (readText? text).map fun (cs, rest) => (String.ofList cs, rest)

/-- Reads the text of an identity. -/
def readIdentityText? : Reader Nat := fun text => do
  let (s, rest) ← readString? text
  return (← Text.identityOfText? s, rest)

/-- Reads an identity of a type, in parentheses unless these have been read already or are not to be
there. -/
def readIdentity? (extensions : List Extension) (type : String) (opened : Bool) : Reader Nat :=
  fun text =>
    if opened ∨ .bareIdentity ∈ extensions then readIdentityText? text
    else do readOnly? readIdentityText? (← skipSign? '(' (← skipTypeName? extensions type text))

/-- Reads what is in parentheses, unless the opening one has been read already: then the closing one
stays too. -/
def readParenthesized? (opened : Bool) (inside : Reader α) : Reader α := fun text =>
  if opened then inside text
  else
    match text with
    | '(' :: rest => readClosed? inside ')' rest
    | _ => none

/-- The values of fields in their order: one that is missing has its substitute, one that is there
twice is refused. -/
def arrange? (fields : List (String × Shape × Option Datum)) (values : List (String × Datum)) :
    Option (List (String × Datum)) :=
  fields.mapM fun (name, shape, fallback) => do
    let value ← match values.filter (·.1 = name) with
      | [] => fallback.or shape.missing?
      | [(_, value)] => some value
      | _ => none
    return (name, value)

/-! ### Documents -/

/-- Reads a value of a shape, nested to a depth at most; it is told whether the parentheses around
the value have been read already and may belong to it. -/
def readDatum? (extensions : List Extension) :
    (depth : Nat) → Shape → (opened : Bool) → Reader Datum
  | _, .bool, _, text => (readBool? text).map fun (b, rest) => (.bool b, rest)
  | _, .natural, _, text => (readNumber? readNatural? text).map fun (n, rest) => (.natural n, rest)
  | _, .single, _, text => (readNumber? readSingle? text).map fun (s, rest) => (.single s, rest)
  | _, .text, _, text => (readString? text).map fun (s, rest) => (.text s, rest)
  | _, .identity type, opened, text =>
    (readIdentity? extensions type opened text).map fun (n, rest) => (.identity n, rest)
  | depth + 1, .optional shape, _, text =>
    (readOptional? extensions (readDatum? extensions depth shape) text).map fun (value, rest) =>
      (value.elim .absent .present, rest)
  | depth + 2, .list shape, _, '[' :: text =>
    (readClosed? (readAll? (readDatum? extensions depth shape false) ']') ']' text).map
      fun (items, rest) => (.list items, rest)
  | depth + 2, .array length shape, opened, text =>
    let items := readSome? (readDatum? extensions depth shape false) length
    (readParenthesized? opened items text).map fun (items, rest) => (.array items, rest)
  | depth + 2, .table type shape, _, '\x7b' :: text =>
    (readClosed? (readAll? (readPair? (readIdentity? extensions type false) fun _ =>
      readDatum? extensions depth shape false) '\x7d') '\x7d' text).map
      fun (entries, rest) => (.table entries, rest)
  | depth + 2, .record type fields, opened, text => do
    let text ← if opened then some text else skipTypeName? extensions type text
    let field (name : String) : Reader (Option Datum) := fun text =>
      match fields.find? (·.1 = name) with
      | some (_, shape, _) =>
        (readDatum? extensions depth shape false text).map fun (d, rest) => (some d, rest)
      | none => (skipValue? extensions depth false text).map fun (_, rest) => (none, rest)
    let (values, rest) ←
      readParenthesized? opened (readAll? (readPair? readName? field) ')') (← skipBlank? text)
    let known := values.filterMap fun (name, value) => value.map (name, ·)
    return (.record (← arrange? fields known), rest)
  | depth + 2, .choice variants, _, text => do
    let (name, rest) ← readName? text
    match variants.find? (·.1 = name) with
    | none => none
    | some (_, none) => return (.choice name, rest)
    | some (_, some shape) =>
      let content := readDatum? extensions depth shape (.bareContent ∈ extensions)
      let (value, rest) ← readOnly? content (← skipSign? '(' rest)
      return (.holding name value, rest)
  | _, _, _, _ => none

/-- The depth to which values may be nested. -/
def greatestDepth : Nat := 128

/-- Reads a whole document of a shape. -/
def ofChars? (shape : Shape) (text : List Char) : Option Datum := do
  let (extensions, text) ← readAttributes? (text.length + 1) text
  let (value, rest) ← readDatum? extensions greatestDepth shape false text
  if (← skipBlank? rest) = [] then return value else none

/-- Data in RON documents. -/
def codec : Codec where
  write indented d := if indented then d.toRon.pretty else d.toRon.compact
  read? shape text := ofChars? shape text.toList

end Ron

end FormulaChain
