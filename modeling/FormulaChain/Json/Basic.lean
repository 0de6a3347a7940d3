import FormulaChain.Text.CodeUnit
import FormulaChain.Text.Hex

/-!
# JSON documents

The tree of a document, and how it is written, on one line or indented. Numbers are kept as they are
written, and texts as code units: whether they stand for anything is asked only of those that are
used.
-/

namespace FormulaChain

/-- A value of a document. -/
inductive Json where
  /-- The empty value. -/
  | null
  /-- A truth value. -/
  | bool (value : Bool)
  /-- A number as it is written. -/
  | number (text : List Char)
  /-- A text in code units. -/
  | string (units : List Nat)
  /-- Values in order. -/
  | array (items : List Json)
  /-- Values under keys, in order. -/
  | object (members : List (List Nat × Json))

namespace Json

/-- A code unit inside quotes. -/
def escapeUnit (u : Nat) : List Char :=
  if u = 0x22 then ['\\', '"']
  else if u = 0x5C then ['\\', '\\']
  else if u = 0x08 then ['\\', 'b']
  else if u = 0x0C then ['\\', 'f']
  else if u = 0x0A then ['\\', 'n']
  else if u = 0x0D then ['\\', 'r']
  else if u = 0x09 then ['\\', 't']
  else if u < 0x20 then '\\' :: 'u' :: Text.hexDigits 4 u
  else [Char.ofNat u]

/-- Code units between quotes. -/
def quoteUnits (units : List Nat) : List Char := '"' :: units.flatMap escapeUnit ++ ['"']

/-- A document is written on one line, or with each value on a line of its own at a depth. -/
abbrev Layout := Option Nat

/-- The layout of what is inside. -/
def Layout.deeper (layout : Layout) : Layout := layout.map (· + 1)

/-- What stands before a value on a line of its own: two blanks for each step of depth. -/
def Layout.lineBreak (layout : Layout) : List Char :=
  layout.elim [] fun depth => '\n' :: List.replicate (2 * depth) ' '

/-- What stands after a key. -/
def Layout.colon (layout : Layout) : List Char := if layout.isSome then [':', ' '] else [':']

mutual

/-- Writes a value. -/
def write (layout : Layout) : Json → List Char
  | .null => "null".toList
  | .bool value => (if value then "true" else "false").toList
  | .number text => text
  | .string units => quoteUnits units
  | .array [] => ['[', ']']
  | .array (item :: items) =>
    '[' :: writeItems layout.deeper (item :: items) ++ layout.lineBreak ++ [']']
  | .object [] => ['\x7b', '\x7d']
  | .object (m :: members) =>
    '\x7b' :: writeMembers layout.deeper (m :: members) ++ layout.lineBreak ++ ['\x7d']
termination_by structural j => j

/-- Writes values with commas between. -/
def writeItems (layout : Layout) : List Json → List Char
  | [] => []
  | item :: items =>
    layout.lineBreak ++ write layout item ++
      (if items.isEmpty then [] else ',' :: writeItems layout items)
termination_by structural items => items

/-- Writes keys and values with commas between. -/
def writeMembers (layout : Layout) : List (List Nat × Json) → List Char
  | [] => []
  | (key, value) :: members =>
    layout.lineBreak ++ quoteUnits key ++ layout.colon ++ write layout value ++
      (if members.isEmpty then [] else ',' :: writeMembers layout members)
termination_by structural members => members

end

/-- A document on one line. -/
def compact (j : Json) : String := String.ofList (j.write none)

/-- A document with its values indented. -/
def pretty (j : Json) : String := String.ofList (j.write (some 0))

end Json

end FormulaChain
