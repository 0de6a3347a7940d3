import FormulaChain.Ron.Extension

/-!
# How RON values are put together

Readers for what holds other values: items with commas between, keys with their values, values that
may be absent. They take the readers of the parts, whatever these are. A reader gives what it has
read and leaves what follows; blanks and comments may stand anywhere between lexemes, and the last
of several values may be followed by a comma.
-/

namespace FormulaChain.Ron

/-- What is read at the beginning of a text, and what follows it. -/
abbrev Reader (α : Type) := List Char → Option (α × List Char)

variable {α β : Type}

/-- Leaves out a sign that has to stand here, after blanks. -/
def skipSign? (sign : Char) (text : List Char) : Option (List Char) := do
  match ← skipBlank? text with
  | [] => none
  | c :: rest => if c = sign then some rest else none

/-- Reads items with commas between, as many as there are characters at most. The closing sign is
left where it stands. -/
def readItems? (item : Reader α) (close : Char) : (fuel : Nat) → Reader (List α)
  | 0, _ => none
  | fuel + 1, text => do
    let text ← skipBlank? text
    if text.head? = some close then return ([], text)
    let (value, rest) ← item text
    let (comma, rest) ← readComma? rest
    if comma then
      let (values, rest) ← readItems? item close fuel rest
      return (value :: values, rest)
    else if rest.head? = some close then return ([value], rest)
    else none

/-- Reads items with commas between. The closing sign is left where it stands. -/
def readAll? (item : Reader α) (close : Char) : Reader (List α) := fun text =>
  readItems? item close (text.length + 1) text

/-- Reads as many items as are asked for, with commas between. -/
def readSome? (item : Reader α) : (count : Nat) → Reader (List α)
  | 0, text => some ([], text)
  | count + 1, text => do
    let (value, rest) ← item (← skipBlank? text)
    let (comma, rest) ← readComma? rest
    if comma || count = 0 then
      let (values, rest) ← readSome? item count rest
      return (value :: values, rest)
    else none

/-- Reads what stands before a closing sign, and the sign. -/
def readClosed? (inside : Reader α) (close : Char) : Reader α := fun text => do
  let (value, rest) ← inside text
  return (value, ← skipSign? close rest)

/-- Reads a key, and behind a colon the value that belongs to it. -/
def readPair? (key : Reader α) (value : α → Reader β) : Reader (α × β) := fun text => do
  let (k, rest) ← key text
  let (v, rest) ← value k (← skipBlank? (← skipSign? ':' rest))
  return ((k, v), rest)

/-- Reads the only value in parentheses, of which the opening one has been read; a comma may follow
it. -/
def readOnly? (inside : Reader α) : Reader α := fun text => do
  let (value, rest) ← inside (← skipBlank? text)
  let (_, rest) ← readComma? rest
  return (value, ← skipSign? ')' rest)

/-- Reads a value that may be absent. `inside` reads one that is present, and is told whether the
parentheses around it have been read already. The mark of a value that is present may lack its
parentheses, or be missing, if the extension for that is enabled. -/
def readOptional? (extensions : List Extension) (inside : (opened : Bool) → Reader α) :
    Reader (Option α) := fun text =>
  match skipWord? "None" text with
  | some rest => some (none, rest)
  | none => do
    let marked := skipWord? "Some" text
    let rest ← marked.elim (some text) skipBlank?
    match marked, rest with
    | some _, '(' :: rest =>
      let (value, rest) ← readOnly? (inside (.bareContent ∈ extensions)) rest
      return (some value, rest)
    | _, rest =>
      if .bareOptional ∈ extensions then
        let (value, rest) ← inside false rest
        return (some value, rest)
      else none

end FormulaChain.Ron
