import FormulaChain.Single.Numeral

/-!
# Numbers in JSON documents

The grammar of numbers, the numbers they stand for, and how numbers are written. A number goes
through the 64-bit binary format before it is narrowed, unless it is a whole number of 64 bits: as
many digits as such a whole number can hold are taken, further ones count as zeros, and the result
is scaled by a power of ten of that format. What exceeds the format is refused. A number is written
with the fewest digits that are read back as the same number by just this rule.
-/

namespace FormulaChain.Json

/-- The parts of a number. -/
structure Number where
  /-- Whether a minus stands in front. -/
  negative : Bool
  /-- The digits before the point. -/
  whole : List Char
  /-- The digits after the point, if there is one. -/
  fraction : List Char
  /-- Whether the exponent has a minus, and its digits. -/
  exponent : Option (Bool × List Char)
  deriving DecidableEq

namespace Number

/-- Reads the exponent, if there is one. -/
def readExponent? : List Char → Option (Option (Bool × List Char))
  | [] => some none
  | mark :: rest =>
    let (negative, digits) := match rest with
      | '-' :: digits => (true, digits)
      | '+' :: digits => (false, digits)
      | digits => (false, digits)
    if (mark = 'e' ∨ mark = 'E') ∧ digits ≠ [] ∧ digits.all Char.isDigit then
      some (some (negative, digits))
    else none

/-- Reads what follows the whole part. -/
def readFraction? : List Char → Option (List Char × Option (Bool × List Char))
  | '.' :: rest =>
    let digits := rest.takeWhile Char.isDigit
    if digits = [] then none
    else (readExponent? (rest.dropWhile Char.isDigit)).map (digits, ·)
  | rest => (readExponent? rest).map ([], ·)

/-- Reads a number without its sign; the whole part has no leading zero. -/
def readUnsigned? (negative : Bool) (text : List Char) : Option Number :=
  let whole := text.takeWhile Char.isDigit
  if whole = [] ∨ (whole.head? = some '0' ∧ whole ≠ ['0']) then none
  else (readFraction? (text.dropWhile Char.isDigit)).map fun (fraction, exponent) =>
    ⟨negative, whole, fraction, exponent⟩

/-- Reads a number. -/
def read? : List Char → Option Number
  | '-' :: text => readUnsigned? true text
  | text => readUnsigned? false text

/-- The bound of whole numbers of 64 bits. -/
def wordBound : Nat := twoTo 64

/-- Takes digits into a number as long as it stays below the bound of a word: the number and the
digits not taken. -/
def takeDigits (n : Nat) : List Char → Nat × List Char
  | [] => (n, [])
  | c :: rest =>
    let next := 10 * n + (c.toNat - '0'.toNat)
    if next < wordBound then takeDigits next rest else (n, c :: rest)

/-- The whole number of 64 bits that a number without point and exponent is, in absolute value. -/
def word? (n : Number) : Option Nat :=
  let (word, dropped) := takeDigits 0 n.whole
  if n.fraction = [] ∧ n.exponent = none ∧ dropped = [] then some word else none

/-- The digits taken, and the power of ten to scale them by if there were no exponent. -/
def scaled (n : Number) : Nat × Int :=
  let (word, dropped) := takeDigits 0 n.whole
  let (significand, left) := takeDigits word n.fraction
  (significand, dropped.length - (n.fraction.length - left.length))

/-- The greatest power of ten of the 64-bit format. -/
def greatestPower : Nat := 308

/-- A power of ten in the 64-bit format, as a rank. -/
def powerRank (k : Nat) : Nat := BinaryFormat.binary64.nearestRatio (tenTo k) 1

/-- A rank divided by a power of ten, in steps of the greatest one of the format. -/
def scaleDown (rank k : Nat) : Nat :=
  if k ≤ greatestPower then BinaryFormat.binary64.divide rank (powerRank k)
  else if rank = 0 then 0
  else scaleDown (BinaryFormat.binary64.divide rank (powerRank greatestPower)) (k - greatestPower)
termination_by k
decreasing_by simp only [greatestPower] at *; omega

/-- A rank multiplied by a power of ten, if the product is finite. -/
def scaleUp? (rank k : Nat) : Option Nat :=
  if k ≤ greatestPower then
    let product := BinaryFormat.binary64.multiply rank (powerRank k)
    if product < BinaryFormat.binary64.infinityRank then some product else none
  else if rank = 0 then some 0
  else none

/-- The rank of the 64-bit format for a significand scaled by a power of ten, if it is finite. -/
def scaleRank? (significand : Nat) (power : Int) : Option Nat :=
  let rank := BinaryFormat.binary64.nearestRatio significand 1
  if 0 ≤ power then scaleUp? rank power.toNat else some (scaleDown rank power.natAbs)

/-- The greatest exponent that is looked at; a greater one is settled by its sign. -/
def greatestExponent : Nat := twoTo 31 - 1

/-- The rank of the 64-bit format that the digits of a number stand for, if it is finite. -/
def rank? (n : Number) : Option Nat :=
  let (significand, power) := n.scaled
  match n.exponent with
  | none => scaleRank? significand power
  | some (negative, digits) =>
    let e := digitsValue digits
    if greatestExponent < e then
      if significand = 0 ∨ negative then some 0 else none
    else scaleRank? significand (if negative then power - e else power + e)

/-- The single-precision number nearest to a magnitude of the 64-bit format. -/
def narrow (negative : Bool) (rank : Nat) : Single :=
  .ofRatio negative (BinaryFormat.binary64.units rank) (twoTo BinaryFormat.binary64.unitExponent)

/-- The number that a number in a document stands for. A whole number of 64 bits, with one bit for
the sign if there is one, is narrowed directly. -/
def single? (n : Number) : Option Single :=
  match n.word? with
  | some word =>
    if n.negative then
      if word = 0 ∨ wordBound < 2 * word then
        some (narrow true (BinaryFormat.binary64.nearestRatio word 1))
      else some (.ofRatio true word 1)
    else some (.ofNat word)
  | none => n.rank?.map (narrow n.negative)

/-- The natural number of 64 bits that a number in a document stands for. -/
def natural? (n : Number) : Option Nat := if n.negative then none else n.word?

end Number

/-! ### Writing -/

/-- Numbers are written positionally from one millionth up to below ten to the thirteenth, whole
ones with a zero fraction, and otherwise with an exponent that has a sign. -/
def numeralStyle : NumeralStyle := ⟨some (-6), some 12, true, true, .toEven⟩

/-- The number that the text of a number stands for. -/
def readSingle? (text : List Char) : Option Single := (Number.read? text).bind (·.single?)

/-- The text of a magnitude. -/
def magnitudeText (rank : Fin 0x7F800000) : List Char :=
  let readsBack (d : Decimal) : Bool :=
    readSingle? (numeralStyle.layout d.normalize) = some (.finite false rank)
  numeralStyle.layout (Single.shortestDecimal readsBack numeralStyle.tie rank)

/-- The text of a finite number. -/
def numeral? : Single → Option (List Char)
  | .finite negative rank =>
    some (if negative then '-' :: magnitudeText rank else magnitudeText rank)
  | _ => none

end FormulaChain.Json
