import FormulaChain.Json.Basic
import FormulaChain.Json.Number

/-!
# Reading JSON documents

A reader by descent on the characters. A text has one value, with blanks around it; nothing follows
the last item of a list or an object.
-/

namespace FormulaChain.Json

/-- Whether a character may stand between values. -/
def isBlank (c : Char) : Bool := c = ' ' || c = '\n' || c = '\t' || c = '\r'

/-- Leaves out blanks. -/
def skipBlank (text : List Char) : List Char := text.dropWhile isBlank

/-- The code unit that a letter after a backslash stands for. -/
def escapedUnit? (c : Char) : Option Nat :=
  if c = '"' ∨ c = '\\' ∨ c = '/' then some c.toNat
  else if c = 'b' then some 0x08
  else if c = 'f' then some 0x0C
  else if c = 'n' then some 0x0A
  else if c = 'r' then some 0x0D
  else if c = 't' then some 0x09
  else none

/-- Reads code units up to the closing quote, and leaves what follows it. -/
def readUnits? : List Char → Option (List Nat × List Char)
  | [] => none
  | '"' :: rest => some ([], rest)
  | '\\' :: 'u' :: a :: b :: c :: d :: rest => do
    let unit ← Text.hexNumber? 0 [a, b, c, d]
    let (units, rest) ← readUnits? rest
    return (unit :: units, rest)
  | '\\' :: c :: rest => do
    let unit ← escapedUnit? c
    let (units, rest) ← readUnits? rest
    return (unit :: units, rest)
  | c :: rest =>
    if c < ' ' then none
    else (readUnits? rest).map fun (units, rest) => (c.toNat :: units, rest)

/-- Whether a character can be part of a number. -/
def isNumeric (c : Char) : Bool :=
  c.isDigit || c = '-' || c = '+' || c = '.' || c = 'e' || c = 'E'

/-- Reads a number. -/
def readNumber? (text : List Char) : Option (Json × List Char) :=
  let numeral := text.takeWhile isNumeric
  if (Number.read? numeral).isSome then some (.number numeral, text.dropWhile isNumeric) else none

/-- Reads a value that is neither list nor object. -/
def readPlain? : List Char → Option (Json × List Char)
  | 'n' :: 'u' :: 'l' :: 'l' :: rest => some (.null, rest)
  | 't' :: 'r' :: 'u' :: 'e' :: rest => some (.bool true, rest)
  | 'f' :: 'a' :: 'l' :: 's' :: 'e' :: rest => some (.bool false, rest)
  | '"' :: rest => (readUnits? rest).map fun (units, rest) => (.string units, rest)
  | text => readNumber? text

mutual

/-- Reads a value and leaves what follows it. -/
def readValue? : (fuel : Nat) → List Char → Option (Json × List Char)
  | 0, _ => none
  | fuel + 1, text =>
    match skipBlank text with
    | '[' :: rest =>
      match skipBlank rest with
      | ']' :: rest => some (.array [], rest)
      | rest => (readItems? fuel rest).map fun (items, rest) => (.array items, rest)
    | '\x7b' :: rest =>
      match skipBlank rest with
      | '\x7d' :: rest => some (.object [], rest)
      | rest => (readMembers? fuel rest).map fun (members, rest) => (.object members, rest)
    | rest => readPlain? rest

/-- Reads values with commas between, up to the end of the list. -/
def readItems? : (fuel : Nat) → List Char → Option (List Json × List Char)
  | 0, _ => none
  | fuel + 1, text => do
    let (item, rest) ← readValue? fuel text
    match skipBlank rest with
    | ']' :: rest => return ([item], rest)
    | ',' :: rest =>
      let (items, rest) ← readItems? fuel rest
      return (item :: items, rest)
    | _ => none

/-- Reads keys and values with commas between, up to the end of the object. -/
def readMembers? : (fuel : Nat) → List Char → Option (List (List Nat × Json) × List Char)
  | 0, _ => none
  | fuel + 1, text =>
    match skipBlank text with
    | '"' :: rest => do
      let (key, rest) ← readUnits? rest
      match skipBlank rest with
      | ':' :: rest =>
        let (value, rest) ← readValue? fuel rest
        match skipBlank rest with
        | '\x7d' :: rest => return ([(key, value)], rest)
        | ',' :: rest =>
          let (members, rest) ← readMembers? fuel rest
          return ((key, value) :: members, rest)
        | _ => none
      | _ => none
    | _ => none

end

/-- Reads a whole document. Between two characters at most two steps are nested. -/
def ofChars? (text : List Char) : Option Json :=
  (readValue? (2 * text.length + 2) text).bind fun (value, rest) =>
    if skipBlank rest = [] then some value else none

/-- Reads a whole document. -/
def ofText? (text : String) : Option Json := ofChars? text.toList

end FormulaChain.Json
