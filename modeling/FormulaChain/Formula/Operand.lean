import FormulaChain.Single.Numeral

/-!
# Operands

What a word becomes when an operator takes it: a number, a vector of three numbers, or the name of
an attribute, which may belong to the geometry or be the result of an earlier node.
-/

namespace FormulaChain

/-- A resolved operand. -/
inductive Operand where
  /-- A literal number. -/
  | scalar (value : Single)
  /-- A literal vector. -/
  | vector (value : Triple)
  /-- The name of an attribute. -/
  | reference (name : String)
  deriving DecidableEq

namespace Operand

/-- The name that stands for an operand that is not there. -/
def missing : Operand := .reference "no_arg"

/-- The operand as a vector, a number being repeated; a name has none. -/
def broadcast : Operand → Option Triple
  | .scalar s => some (.splat s)
  | .vector t => some t
  | .reference _ => none

/-- The text of an operand in a report. -/
def text : Operand → String
  | .scalar s => s.plainText
  | .vector t => "(" ++ ", ".intercalate (t.toList.map Single.plainText) ++ ")"
  | .reference name => name

/-- The text of an operand in a list of operands inside a message. -/
def itemText : Operand → String
  | .scalar s => s.literalText
  | .vector t => t.attributeText
  | .reference name => "'" ++ name ++ "'"

/-- A list of operands inside a message. -/
def listText (operands : List Operand) : String :=
  "[" ++ ", ".intercalate (operands.map itemText) ++ "]"

end Operand

end FormulaChain
