import FormulaChain.Text.Quoted

/-!
# RON documents

The tree of a document, and how it is written, on one line or indented. Parentheses hold either
named fields or values in order, and a name may stand in front of them.
-/

namespace FormulaChain

/-- A value of a document. -/
inductive Ron where
  /-- A number as it is written. -/
  | number (text : List Char)
  /-- A text. -/
  | string (value : String)
  /-- A name that stands alone. -/
  | word (name : String)
  /-- Values in parentheses. -/
  | group (tag : Option String) (items : List Ron)
  /-- Fields in parentheses. -/
  | record (tag : Option String) (fields : List (String × Ron))
  /-- Values in brackets. -/
  | list (items : List Ron)
  /-- Keys and values in braces. -/
  | map (entries : List (Ron × Ron))

namespace Ron

/-- A document is written on one line, or with values on lines of their own at a depth. -/
abbrev Layout := Option Nat

/-- The layout of what is inside. -/
def Layout.deeper (layout : Layout) : Layout := layout.map (· + 1)

/-- What stands before a value on a line of its own: four blanks for each step of depth. -/
def Layout.lineBreak (layout : Layout) : List Char :=
  layout.elim [] fun depth => '\n' :: List.replicate (4 * depth) ' '

/-- A blank, unless all is on one line. -/
def Layout.blank (layout : Layout) : List Char := if layout.isSome then [' '] else []

/-- The comma after a value; the last one has a comma only on a line of its own. -/
def Layout.comma (layout : Layout) (isLast : Bool) : List Char :=
  if isLast && layout.isNone then [] else [',']

/-- The name in front of parentheses. -/
def tagText (tag : Option String) : List Char := (tag.map String.toList).getD []

mutual

/-- Writes a value. -/
def write (layout : Layout) : Ron → List Char
  | .number text => text
  | .string value => (Text.quotedStrictly value).toList
  | .word name => name.toList
  | .group tag items => tagText tag ++ '(' :: writeGroup layout items ++ [')']
  | .record tag [] => tagText tag ++ ['(', ')']
  | .record tag (field :: fields) =>
    tagText tag ++ '(' :: writeFields layout.deeper (field :: fields) ++ layout.lineBreak ++ [')']
  | .list [] => ['[', ']']
  | .list (item :: items) =>
    '[' :: writeItems layout.deeper (item :: items) ++ layout.lineBreak ++ [']']
  | .map [] => ['\x7b', '\x7d']
  | .map (entry :: entries) =>
    '\x7b' :: writeEntries layout.deeper (entry :: entries) ++ layout.lineBreak ++ ['\x7d']
termination_by structural r => r

/-- Writes values on one line with commas between. -/
def writeGroup (layout : Layout) : List Ron → List Char
  | [] => []
  | item :: items =>
    write layout item ++
      (if items.isEmpty then [] else ',' :: layout.blank ++ writeGroup layout items)
termination_by structural items => items

/-- Writes values, each on its line. -/
def writeItems (layout : Layout) : List Ron → List Char
  | [] => []
  | item :: items =>
    layout.lineBreak ++ write layout item ++ layout.comma items.isEmpty ++ writeItems layout items
termination_by structural items => items

/-- Writes fields, each on its line. -/
def writeFields (layout : Layout) : List (String × Ron) → List Char
  | [] => []
  | (name, value) :: fields =>
    layout.lineBreak ++ name.toList ++ ':' :: layout.blank ++ write layout value ++
      layout.comma fields.isEmpty ++ writeFields layout fields
termination_by structural fields => fields

/-- Writes keys and values, each pair on its line. -/
def writeEntries (layout : Layout) : List (Ron × Ron) → List Char
  | [] => []
  | (key, value) :: entries =>
    layout.lineBreak ++ write layout key ++ ':' :: layout.blank ++ write layout value ++
      layout.comma entries.isEmpty ++ writeEntries layout entries
termination_by structural entries => entries

end

/-- A document on one line. -/
def compact (r : Ron) : String := String.ofList (r.write none)

/-- A document with its values indented. -/
def pretty (r : Ron) : String := String.ofList (r.write (some 0))

end Ron

end FormulaChain
