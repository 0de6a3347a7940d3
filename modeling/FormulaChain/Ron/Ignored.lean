import FormulaChain.Ron.Number
import FormulaChain.Ron.Reader

/-!
# RON values that are left out of account

A value of which nothing is known may be anything: it is read only to find its end. Where the
parentheses around a value may belong to what holds it, what stands between them decides whether
they do: named fields, or several values.

Values may be nested to a limited depth. Brackets count twice, once for themselves and once for the
place inside them, and the mark of a value that is present counts once.
-/

namespace FormulaChain.Ron

variable {α : Type}

/-! ### Parentheses -/

/-- What stands in parentheses. -/
inductive Enclosed where
  /-- One value, or none. -/
  | single
  /-- Several values. -/
  | several
  /-- Named fields. -/
  | fields
  deriving DecidableEq

/-- Leaves out what may hold brackets that are none: a character, then a text, then bytes, each if
it stands here. -/
def skipLiterals (text : List Char) : List Char :=
  let text := (skipCharacter? text).getD text
  let text := (readText? text).elim text (·.2)
  (skipBytes? text).getD text

/-- Whether a comma with another value behind it stands here. -/
def precedesValue? (text : List Char) : Option Enclosed := do
  return if (← skipBlank? text).head? = some ')' then .single else .several

/-- Looks for a comma that stands in as many brackets as at the beginning, before these are
closed. -/
def findComma? : (fuel : Nat) → (depth : Nat) → List Char → Option Enclosed
  | 0, _, _ => none
  | fuel + 1, depth, text => do
    match skipLiterals (← skipBlank? text) with
    | [] => none
    | c :: rest =>
      if c ∈ ['(', '[', '\x7b'] then findComma? fuel (depth + 1) rest
      else if c ∈ [')', ']', '\x7d'] then
        match depth with
        | 0 => some .single
        | depth + 1 => findComma? fuel depth rest
      else if c = ',' ∧ depth = 0 then precedesValue? rest
      else findComma? fuel depth rest

/-- What stands in parentheses, of which the opening one has been read. -/
def enclosed? (text : List Char) : Option Enclosed := do
  let text ← skipBlank? text
  match skipName? text with
  | none => findComma? (text.length + 1) 0 text
  | some rest =>
    match ← skipBlank? rest with
    | ':' :: _ => some .fields
    | ',' :: rest => precedesValue? rest
    | ')' :: _ => some .single
    | rest => findComma? (rest.length + 1) 0 rest

/-- Whether a name with a colon behind it begins. -/
def beginsFields (text : List Char) : Bool :=
  match (skipBlank? text).bind skipName? with
  | some rest => (skipBlank? rest).bind List.head? = some ':'
  | none => false

/-! ### Values -/

/-- Leaves out a value; it is told whether the parentheses around the value have been read already
and may belong to it. -/
abbrev Skipper := (opened : Bool) → Reader Unit

/-- Leaves out what is between brackets, and the closing one. -/
def skipClosed? (inside : Reader α) (close : Char) : Reader Unit := fun text =>
  (readClosed? inside close text).map fun (_, rest) => ((), rest)

/-- Leaves out named fields or values up to a closing parenthesis, which stays. -/
def skipParts? (part : Reader Unit) (areFields : Bool) : Reader Unit := fun text =>
  if areFields then
    (readAll? (readPair? part fun _ => part) ')' text).map fun (_, rest) => ((), rest)
  else (readAll? part ')' text).map fun (_, rest) => ((), rest)

/-- Leaves out a value that is a word. -/
def skipKeyword? (text : List Char) : Option (List Char) :=
  ["true", "false", "inf", "inff32", "inff64", "NaN", "NaNf32", "NaNf64"].firstM (skipWord? · text)

/-- Whether a character can be part of a number of any kind. -/
def isNumeric (c : Char) : Bool := c.isAlphanum || c = '_' || c = '.' || c = '+' || c = '-'

/-- Leaves out a value without parts. -/
def skipPlain? (text : List Char) : Option (List Char) :=
  (((skipCharacter? text).or ((readText? text).map (·.2))).or (skipByte? text)).or <|
    (skipBytes? text).or <|
      if isNumber (text.takeWhile isNumeric) then some (text.dropWhile isNumeric) else none

/-- Leaves out a value whose parts are left out in the ways given: `inside` is for what a mark
encloses and one step deeper, `part` is for what is in brackets and two steps deeper. There is no
`part` if no brackets may be opened any more. -/
def skipLayer? (extensions : List Extension) (inside : Skipper) (part : Option (Reader Unit)) :
    Skipper := fun opened text =>
  if opened then
    if text.head? = some ')' then some ((), text)
    else do
      match ← enclosed? text with
      | .single => value text
      | .several => skipParts? (← part) false text
      | .fields => skipParts? (← part) true text
  else value text
where
  /-- Leaves out a value that has its own parentheses, if any. -/
  value (text : List Char) : Option (Unit × List Char) :=
    if let some rest := skipKeyword? text then some ((), rest)
    else if (skipWord? "Some" text).isSome || (skipWord? "None" text).isSome then
      (readOptional? extensions inside text).map fun (_, rest) => ((), rest)
    else if "()".toList.isPrefixOf text then some ((), text.drop 2)
    else
      match skipName? text with
      | some rest => do
        match ← skipBlank? rest with
        | '(' :: rest => parentheses rest
        | rest => some ((), rest)
      | none =>
        match text with
        | '(' :: rest => parentheses rest
        | '[' :: rest => do skipClosed? (readAll? (← part) ']') ']' rest
        | '\x7b' :: rest => do
          let part ← part
          skipClosed? (readAll? (readPair? part fun _ => part) '\x7d') '\x7d' rest
        | text => (skipPlain? text).map ((), ·)
  /-- Leaves out what is in parentheses, and the closing one. -/
  parentheses (rest : List Char) : Option (Unit × List Char) := do
    skipClosed? (skipParts? (← part) (beginsFields rest)) ')' rest

/-- Leaves out a value of any kind that is nested to a depth at most. -/
def skipValue? (extensions : List Extension) : (depth : Nat) → Skipper
  | 0 => skipLayer? extensions (fun _ _ => none) none
  | 1 => skipLayer? extensions (skipValue? extensions 0) (some fun _ => none)
  | depth + 2 =>
    skipLayer? extensions (skipValue? extensions (depth + 1))
      (some (skipValue? extensions depth false))

end FormulaChain.Ron
