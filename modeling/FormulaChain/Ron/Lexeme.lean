import FormulaChain.Text.Hex
import FormulaChain.Text.Identifier

/-!
# Lexemes of RON documents

What the values of a document are made of: blanks and comments, names, quoted texts with their
escapes, raw texts, characters and bytes.
-/

namespace FormulaChain.Ron

/-! ### Blanks and comments -/

/-- Whether a character may stand between values. -/
def isBlank (c : Char) : Bool :=
  c = ' ' || ('\t' ≤ c && c ≤ '\r') || c = '\u0085' || c = '\u200e' || c = '\u200f' ||
    c = '\u2028' || c = '\u2029'

/-- What is being left out. -/
inductive Skipping where
  /-- Blanks. -/
  | blanks
  /-- A comment up to the end of the line. -/
  | line
  /-- A comment inside so many others. -/
  | block (depth : Nat)

/-- Leaves out blanks and comments; a comment that is begun has to be closed. -/
def skip? : Skipping → List Char → Option (List Char)
  | .blanks, [] => some []
  | .blanks, '/' :: '/' :: rest => skip? .line rest
  | .blanks, '/' :: '*' :: rest => skip? (.block 0) rest
  | .blanks, c :: rest =>
    if c = '/' then none else if isBlank c then skip? .blanks rest else some (c :: rest)
  | .line, [] => some []
  | .line, c :: rest => if c = '\n' then skip? .blanks rest else skip? .line rest
  | .block _, [] => none
  | .block depth, '/' :: '*' :: rest => skip? (.block (depth + 1)) rest
  | .block 0, '*' :: '/' :: rest => skip? .blanks rest
  | .block (depth + 1), '*' :: '/' :: rest => skip? (.block depth) rest
  | .block depth, _ :: rest => skip? (.block depth) rest

/-- Leaves out blanks and comments between values. -/
def skipBlank? (text : List Char) : Option (List Char) := skip? .blanks text

/-- Leaves out a comma if there is one, with the blanks on both sides of it. -/
def readComma? (text : List Char) : Option (Bool × List Char) := do
  match ← skipBlank? text with
  | ',' :: rest => return (true, ← skipBlank? rest)
  | rest => return (false, rest)

/-! ### Names -/

/-- Whether a character may begin a name. -/
def startsName (c : Char) : Bool := Text.startsIdentifier c || c = '_'

/-- Whether a character may be in a name that is marked as one. -/
def isRawPart (c : Char) : Bool := Text.continuesIdentifier c || c = '.' || c = '+' || c = '-'

/-- Reads a name. A name with characters that only a marked name may have is refused. -/
def readName? : List Char → Option (String × List Char)
  | 'r' :: '#' :: rest =>
    let name := rest.takeWhile isRawPart
    if name = [] then none else some (String.ofList name, rest.dropWhile isRawPart)
  | [] => none
  | c :: rest =>
    let after := rest.dropWhile Text.continuesIdentifier
    if startsName c && !after.head?.any isRawPart then
      some (String.ofList (c :: rest.takeWhile Text.continuesIdentifier), after)
    else none

/-- Leaves out a word that stands here, unless it goes on. -/
def skipWord? (word : String) (text : List Char) : Option (List Char) :=
  let rest := text.drop word.length
  if word.toList.isPrefixOf text && !rest.head?.any Text.continuesIdentifier then some rest
  else none

/-! ### Texts -/

/-- A part of a quoted text: a character, or a byte of the encoding of one. -/
inductive Piece where
  /-- A character. -/
  | char (c : Char)
  /-- A byte. -/
  | byte (b : UInt8)

/-- The characters that bytes encode. -/
def decodeBytes? (bytes : List UInt8) : Option (List Char) :=
  (String.fromUTF8? ⟨bytes.toArray⟩).map String.toList

/-- The characters of pieces, after the bytes that wait for more. -/
def joinPieces? : (waiting : List UInt8) → List Piece → Option (List Char)
  | waiting, [] => decodeBytes? waiting
  | waiting, .byte b :: pieces => joinPieces? (waiting ++ [b]) pieces
  | [], .char c :: pieces => (joinPieces? [] pieces).map (c :: ·)
  | waiting, .char c :: pieces => do
    return (← decodeBytes? waiting) ++ c :: (← joinPieces? [] pieces)

/-- What has been read of an escape. -/
inductive Escaping where
  /-- No escape is begun. -/
  | none
  /-- The backslash. -/
  | begun
  /-- The mark of a byte, and perhaps its first digit. -/
  | byte (digit : Option Nat)
  /-- The mark of a code point. -/
  | mark
  /-- The opening brace of a code point, and some digits with their value. -/
  | code (digits value : Nat)

/-- The character that a letter after a backslash stands for. -/
def escapedChar? (c : Char) : Option Char :=
  if c = '\'' ∨ c = '"' ∨ c = '\\' then some c
  else if c = 'n' then some '\n'
  else if c = 'r' then some '\r'
  else if c = 't' then some '\t'
  else if c = '0' then some '\x00'
  else none

/-- The piece that a byte escape stands for. -/
def Piece.ofByte (n : Nat) : Piece := if n < 0x80 then .char (Char.ofNat n) else .byte n.toUInt8

/-- The character of a code point, which has one to six digits. -/
def codeChar? (digits value : Nat) : Option Char :=
  if 0 < digits ∧ value.isValidChar then some (Char.ofNat value) else none

/-- Reads pieces up to a closing quote, and leaves what follows it. -/
def readPieces? (quote : Char) : Escaping → List Char → Option (List Piece × List Char)
  | _, [] => none
  | .none, c :: rest =>
    if c = quote then some ([], rest)
    else if c = '\\' then readPieces? quote .begun rest
    else (readPieces? quote .none rest).map fun (pieces, rest) => (.char c :: pieces, rest)
  | .begun, c :: rest =>
    match escapedChar? c with
    | some d => (readPieces? quote .none rest).map fun (pieces, rest) => (.char d :: pieces, rest)
    | none =>
      if c = 'x' then readPieces? quote (.byte none) rest
      else if c = 'u' then readPieces? quote .mark rest
      else none
  | .byte digit, c :: rest =>
    match Text.hexValue? c, digit with
    | none, _ => none
    | some low, none => readPieces? quote (.byte (some low)) rest
    | some low, some high =>
      (readPieces? quote .none rest).map fun (pieces, rest) =>
        (.ofByte (16 * high + low) :: pieces, rest)
  | .mark, c :: rest => if c = '\x7b' then readPieces? quote (.code 0 0) rest else none
  | .code digits value, c :: rest =>
    if c = '\x7d' then do
      let c ← codeChar? digits value
      let (pieces, rest) ← readPieces? quote .none rest
      return (.char c :: pieces, rest)
    else
      match Text.hexValue? c with
      | some digit =>
        if digits < 6 then readPieces? quote (.code (digits + 1) (16 * value + digit)) rest
        else none
      | none => none

/-- Reads characters up to a closing quote. -/
def readQuoted? (quote : Char) (text : List Char) : Option (List Char × List Char) := do
  let (pieces, rest) ← readPieces? quote .none text
  return (← joinPieces? [] pieces, rest)

/-- Splits a text at the first place where another stands, which is left out. -/
def splitAt? (mark : List Char) : List Char → Option (List Char × List Char)
  | [] => none
  | c :: rest =>
    if mark.isPrefixOf (c :: rest) then some ([], (c :: rest).drop mark.length)
    else (splitAt? mark rest).map fun (before, after) => (c :: before, after)

/-- Reads a raw text after its mark: it ends at a quote with as many signs as it began with. -/
def readRaw? (text : List Char) : Option (List Char × List Char) :=
  let signs := text.takeWhile (· = '#')
  match text.dropWhile (· = '#') with
  | '"' :: rest => splitAt? ('"' :: signs) rest
  | _ => none

/-- Reads a text, quoted or raw. -/
def readText? : List Char → Option (List Char × List Char)
  | '"' :: rest => readQuoted? '"' rest
  | 'r' :: rest => readRaw? rest
  | _ => none

/-! ### Characters and bytes -/

/-- Leaves out a character in single quotes. A byte of an encoding is none. -/
def skipCharacter? : List Char → Option (List Char)
  | '\'' :: '\\' :: rest =>
    match readPieces? '\'' .begun rest with
    | some ([.char _], rest) => some rest
    | _ => none
  | '\'' :: _ :: '\'' :: rest => some rest
  | _ => none

/-- Leaves out a byte in single quotes with a mark in front: an ASCII character or an escape. -/
def skipByte? : List Char → Option (List Char)
  | 'b' :: '\'' :: '\\' :: 'x' :: high :: low :: '\'' :: rest =>
    if (Text.hexValue? high).isSome && (Text.hexValue? low).isSome then some rest else none
  | 'b' :: '\'' :: '\\' :: c :: '\'' :: rest => if (escapedChar? c).isSome then some rest else none
  | 'b' :: '\'' :: c :: '\'' :: rest => if c.val < 0x80 && c ≠ '\\' then some rest else none
  | _ => none

/-- Leaves out bytes that are written like a quoted or a raw text with a mark in front. -/
def skipBytes? : List Char → Option (List Char)
  | 'b' :: '"' :: rest => (readPieces? '"' .none rest).map (·.2)
  | 'b' :: 'r' :: rest => (readRaw? rest).map (·.2)
  | _ => none

/-! ### Names before values of any kind -/

/-- Whether a raw text begins. -/
def beginsRaw : List Char → Bool
  | 'r' :: '"' :: _ => true
  | 'r' :: '#' :: '"' :: _ => true
  | 'r' :: '#' :: '#' :: _ => true
  | _ => false

/-- Whether one byte or several begin. -/
def beginsBytes : List Char → Bool
  | 'b' :: '\'' :: _ => true
  | 'b' :: '"' :: _ => true
  | 'b' :: 'r' :: '"' :: _ => true
  | 'b' :: 'r' :: '#' :: _ => true
  | _ => false

/-- Leaves out a name, which is not the mark of a raw text or of bytes. -/
def skipName? (text : List Char) : Option (List Char) :=
  if beginsRaw text || beginsBytes text then none
  else
    match text with
    | 'r' :: '#' :: rest =>
      if rest.head?.any isRawPart then some (rest.dropWhile isRawPart) else none
    | c :: rest => if startsName c then some (rest.dropWhile Text.continuesIdentifier) else none
    | [] => none

end FormulaChain.Ron
