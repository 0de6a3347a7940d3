import FormulaChain.Text.Extending
import FormulaChain.Text.Printable

/-!
# Quoted text

Text inside double quotes, with what would not show written as an escape: the usual letters after a
backslash for the common controls, code points in braces for the rest. Two styles differ in one
point, whether a single quote is escaped too.
-/

namespace FormulaChain.Text

/-- A code point as an escape, in lower-case hexadecimal digits between braces. -/
def codeEscape (c : Char) : List Char :=
  '\\' :: 'u' :: '\x7b' :: Nat.toDigits 16 c.toNat ++ ['\x7d']

/-- A character inside quotes: `quotes` are those that are escaped. -/
def escapeChar (quotes : List Char) (c : Char) : List Char :=
  if c = '\x00' then ['\\', '0']
  else if c = '\t' then ['\\', 't']
  else if c = '\r' then ['\\', 'r']
  else if c = '\n' then ['\\', 'n']
  else if c = '\\' ∨ c ∈ quotes then ['\\', c]
  else if isExtending c || !isPrintable c then codeEscape c
  else [c]

/-- A text between double quotes in which `quotes` are escaped. -/
def quoteWith (quotes : List Char) (s : String) : String :=
  String.ofList ('"' :: s.toList.flatMap (escapeChar quotes) ++ ['"'])

/-- A text quoted inside a message: a single quote stays as it is. -/
def quoted (s : String) : String := quoteWith ['"'] s

/-- A text quoted inside a settings document: both quotes are escaped. -/
def quotedStrictly (s : String) : String := quoteWith ['"', '\''] s

end FormulaChain.Text
