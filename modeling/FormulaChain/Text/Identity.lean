import FormulaChain.Text.Hex

/-!
# Identity text

A number of 128 bits written as 32 hexadecimal digits in groups of 8, 4, 4, 4 and 12 with hyphens
between. It may be read without hyphens too, and with hyphens also inside braces or after the name
of its scheme, in small or in capital letters.
-/

namespace FormulaChain.Text

/-- The lengths of the groups of digits. -/
def identityGroups : List Nat := [8, 4, 4, 4, 12]

/-- Digits with a hyphen between every two groups. -/
def hyphenate : List Nat → List Char → List Char
  | [], digits => digits
  | [_], digits => digits
  | n :: groups, digits => digits.take n ++ '-' :: hyphenate groups (digits.drop n)

/-- The digits of hyphenated text, if the hyphens stand where they belong. -/
def dehyphenate? : List Nat → List Char → Option (List Char)
  | [], text => some text
  | [_], text => some text
  | n :: groups, text =>
    match text.drop n with
    | '-' :: rest => (dehyphenate? groups rest).map (text.take n ++ ·)
    | _ => none

/-- The text of an identity. -/
def identityText (number : Nat) : String :=
  String.ofList (hyphenate identityGroups (hexDigits 32 number))

/-- The number that hyphenated digits write. -/
def hyphenatedIdentity? (text : List Char) : Option Nat :=
  if text.length = 36 then (dehyphenate? identityGroups text).bind (hexNumber? 0) else none

/-- The names of the scheme. -/
def identitySchemes : List (List Char) := ["urn:uuid:".toList, "URN:UUID:".toList]

/-- What stands between braces, or after a name of the scheme. -/
def unwrapIdentity (text : List Char) : List Char :=
  match text with
  | '\x7b' :: rest => if rest.getLast? = some '\x7d' then rest.dropLast else text
  | text =>
    match identitySchemes.find? (·.isPrefixOf text) with
    | some scheme => text.drop scheme.length
    | none => text

/-- The identity that a text writes. -/
def identityOfText? (text : String) : Option Nat :=
  let chars := text.toList
  if chars.length = 32 then hexNumber? 0 chars else hyphenatedIdentity? (unwrapIdentity chars)

end FormulaChain.Text
