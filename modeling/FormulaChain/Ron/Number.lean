import FormulaChain.Single.Numeral
import FormulaChain.Text.Hex

/-!
# Numbers in RON documents

Numbers may have underscores between their digits and the name of a type behind them. A whole number
may be binary, octal or hexadecimal. A number with a fraction is rounded to its type directly, and
is written with the fewest digits that are read back as the same number, never with an exponent.
"Not a number" keeps its sign.
-/

namespace FormulaChain.Ron

/-- Numbers are always written positionally, whole ones with a zero fraction. -/
def numeralStyle : NumeralStyle := ⟨none, none, true, false, .up⟩

/-- The text of a number. -/
def numeral (s : Single) : List Char :=
  let text := (s.toText numeralStyle).toList
  if s = .nan true then '-' :: text else text

/-! ### Numbers with a fraction -/

/-- Whether a character can stand in a number with a fraction. -/
def isFractional (c : Char) : Bool :=
  c.isDigit || c = 'e' || c = 'E' || c = '.' || c = '+' || c = '-' || c = '_'

/-- Leaves out underscores; none may come first or after a point. -/
def dropUnderscores? : (allowed : Bool) → List Char → Option (List Char)
  | _, [] => some []
  | allowed, c :: rest =>
    if c = '_' then if allowed then dropUnderscores? true rest else none
    else
      let next := if c = '+' ∨ c = '-' then allowed else c ≠ '.'
      (dropUnderscores? next rest).map (c :: ·)

/-- The words for the numbers that digits do not write. -/
def readWord? (text : List Char) : Option Single :=
  if text = "inf".toList ∨ text = "+inf".toList then some (.infinite false)
  else if text = "-inf".toList then some (.infinite true)
  else if text = "NaN".toList ∨ text = "+NaN".toList then some (.nan false)
  else if text = "-NaN".toList then some (.nan true)
  else none

/-- Splits off the name of a type at the end of a number, if it is there. -/
def splitType (name text : List Char) : List Char :=
  if name.isSuffixOf text then text.take (text.length - name.length) else text

/-- The number that digits or a word write, without the name of a type. -/
def readUntyped? (text : List Char) : Option Single :=
  (readWord? text).or <|
    if text.all isFractional then (dropUnderscores? false text).bind Single.ofChars? else none

/-- The single-precision number that a text writes. -/
def readSingle? (text : List Char) : Option Single := readUntyped? (splitType "f32".toList text)

/-! ### Whole numbers -/

/-- The base that the beginning of a whole number names, and what follows. -/
def splitBase : List Char → Nat × List Char
  | '0' :: 'b' :: rest => (2, rest)
  | '0' :: 'o' :: rest => (8, rest)
  | '0' :: 'x' :: rest => (16, rest)
  | text => (10, text)

/-- Whether a character can stand in a whole number, whatever its base. -/
def isWhole (c : Char) : Bool := (Text.hexValue? c).isSome || c = '_'

/-- The number that digits of a base write, underscores left out of account. -/
def readDigits? (base : Nat) (n : Nat) : List Char → Option Nat
  | [] => some n
  | c :: rest =>
    if c = '_' then readDigits? base n rest
    else (Text.hexValue? c).bind fun digit =>
      if digit < base then readDigits? base (base * n + digit) rest else none

/-- A whole number: its sign, its digits, and the name of a type behind them. -/
structure Whole where
  /-- Whether a minus stands in front. -/
  negative : Bool
  /-- The base of the digits. -/
  base : Nat
  /-- The absolute value. -/
  magnitude : Nat
  /-- The name of the type, empty if there is none. -/
  type : List Char
  deriving DecidableEq

namespace Whole

/-- Reads a whole number. -/
def read? (text : List Char) : Option Whole :=
  let (negative, unsigned) := match text with
    | '-' :: rest => (true, rest)
    | '+' :: rest => (false, rest)
    | rest => (false, rest)
  let (base, rest) := splitBase unsigned
  let digits := rest.takeWhile isWhole
  if digits = [] ∨ digits.head? = some '_' then none
  else (readDigits? base 0 digits).map fun n => ⟨negative, base, n, rest.dropWhile isWhole⟩

/-- Whether the value lies between a bound for negative numbers and one for the others. -/
def inRange (n : Whole) (below above : Nat) : Bool :=
  if n.negative then n.magnitude ≤ below else n.magnitude ≤ above

/-- Whether the name of a type may stand behind the digits: not behind octal and hexadecimal
ones. -/
def takesType (n : Whole) : Bool := n.base = 10 || n.base = 2

/-- Whether the value is one of the type with a name. -/
def fits (n : Whole) (type : String) : Bool :=
  match type with
  | "u8" => n.inRange 0 (twoTo 8 - 1)
  | "u16" => n.inRange 0 (twoTo 16 - 1)
  | "u32" => n.inRange 0 (twoTo 32 - 1)
  | "u64" => n.inRange 0 (twoTo 64 - 1)
  | "i8" => n.inRange (twoTo 7) (twoTo 7 - 1)
  | "i16" => n.inRange (twoTo 15) (twoTo 15 - 1)
  | "i32" => n.inRange (twoTo 31) (twoTo 31 - 1)
  | "i64" => n.inRange (twoTo 63) (twoTo 63 - 1)
  | _ => false

/-- Whether a whole number is one of the type behind it; without a type, decimal digits may exceed
every range, for they can be read as a number with a fraction. -/
def isValid (n : Whole) : Bool :=
  if n.type = [] then n.base = 10 || n.inRange (twoTo 63) (twoTo 64 - 1)
  else n.takesType && n.fits (String.ofList n.type)

end Whole

/-- The natural number of 64 bits that a text writes. -/
def readNatural? (text : List Char) : Option Nat :=
  (Whole.read? text).bind fun n =>
    if (n.type = [] ∨ n.takesType ∧ n.type = "u64".toList) ∧ n.fits "u64" then some n.magnitude
    else none

/-- Whether a text is a number of any type. -/
def isNumber (text : List Char) : Bool :=
  (readSingle? text).isSome || (readUntyped? (splitType "f64".toList text)).isSome ||
    (Whole.read? text).any (·.isValid)

end FormulaChain.Ron
