import FormulaChain.Ron.Lexeme

/-!
# Extensions of RON documents

A document may begin with attributes that enable extensions; each lets something be written in
another way.
-/

namespace FormulaChain.Ron

/-- What a document may enable. -/
inductive Extension where
  /-- A value that may be absent is written like one that may not. -/
  | bareOptional
  /-- Identities are written without parentheses. -/
  | bareIdentity
  /-- The only value of a choice, and one that might be absent, has no parentheses of its own. -/
  | bareContent
  /-- Records and identities have the name of their type in front. -/
  | typeNames
  deriving DecidableEq

/-- The name of an extension. -/
def Extension.name : Extension → String
  | .bareOptional => "implicit_some"
  | .bareIdentity => "unwrap_newtypes"
  | .bareContent => "unwrap_variant_newtypes"
  | .typeNames => "explicit_struct_names"

/-- The extension with a name. -/
def Extension.ofName? (name : String) : Option Extension :=
  [bareOptional, bareIdentity, bareContent, typeNames].find? (·.name = name)

/-- Leaves out signs and words in order, with blanks behind each. -/
def skipSigns? : List String → List Char → Option (List Char)
  | [], text => some text
  | sign :: signs, text =>
    if sign.toList.isPrefixOf text then
      (skipBlank? (text.drop sign.length)).bind (skipSigns? signs)
    else none

/-- Reads names of extensions with commas between, as many as there are characters at most. -/
def readExtensions? : (fuel : Nat) → List Char → Option (List Extension × List Char)
  | 0, _ => none
  | fuel + 1, text => do
    let (name, rest) ← readName? text
    let extension ← Extension.ofName? name
    let (comma, rest) ← readComma? rest
    if comma && rest.head?.any Text.continuesIdentifier then
      let (extensions, rest) ← readExtensions? fuel rest
      return (extension :: extensions, rest)
    else return ([extension], rest)

/-- Reads the attributes of a document, with blanks around them. -/
def readAttributes? : (fuel : Nat) → List Char → Option (List Extension × List Char)
  | 0, _ => none
  | fuel + 1, text => do
    let text ← skipBlank? text
    if text.head? = some '#' then
      let rest ← skipSigns? ["#", "!", "[", "enable", "("] text
      let (extensions, rest) ← readExtensions? rest.length rest
      let rest ← skipSigns? [")", "]"] rest
      let (others, rest) ← readAttributes? fuel rest
      return (extensions ++ others, rest)
    else return ([], text)

end FormulaChain.Ron
