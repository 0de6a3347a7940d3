import FormulaChain.Report

/-!
# Command-line arguments

The arguments are read from left to right, and the first that cannot be right decides, as does the
first that asks for the version or for help. Flags have a long name, some a letter; letters without
values may be joined, and a value stands behind an equals sign, directly behind its letter, or in
the next argument. Two hyphens end the flags. One argument that is no flag is the formula.
-/

namespace FormulaChain

/-- The flags. -/
inductive Flag where
  /-- A file with settings. -/
  | settings
  /-- The stem of the names of intermediate results. -/
  | tempAttr
  /-- No frame around the nodes. -/
  | noFrame
  /-- The form of the report. -/
  | format
  /-- More about what is done. -/
  | verbose
  /-- What the flags are. -/
  | help
  /-- Which version this is. -/
  | version
  deriving DecidableEq

namespace Flag

/-- All flags. -/
def all : List Flag := [.settings, .tempAttr, .noFrame, .format, .verbose, .help, .version]

/-- The name after two hyphens. -/
def long : Flag → String
  | .settings => "settings"
  | .tempAttr => "temp-attr"
  | .noFrame => "no-frame"
  | .format => "format"
  | .verbose => "verbose"
  | .help => "help"
  | .version => "version"

/-- The letter after one hyphen. -/
def letter? : Flag → Option Char
  | .settings => some 's'
  | .format => some 'o'
  | .verbose => some 'v'
  | .help => some 'h'
  | .version => some 'V'
  | _ => none

/-- Whether a value belongs to a flag. -/
def takesValue : Flag → Bool
  | .settings => true
  | .tempAttr => true
  | .format => true
  | _ => false

/-- The flag with a name. -/
def ofLong? (name : String) : Option Flag := all.find? (·.long = name)

/-- The flag with a letter. -/
def ofLetter? (c : Char) : Option Flag := all.find? (·.letter? = some c)

end Flag

/-- What the arguments ask for. -/
structure Arguments where
  /-- The formula. -/
  formula : Option String
  /-- The path of the settings file. -/
  settings : Option String
  /-- The stem of the names of intermediate results. -/
  tempName : Option String
  /-- Whether no frame is wanted. -/
  noFrame : Bool
  /-- The form of the report. -/
  format : ReportFormat
  /-- Whether more is wanted about what is done. -/
  verbose : Bool
  deriving DecidableEq

/-- Why nothing is compiled. -/
inductive Halt where
  /-- The arguments are not as they should be. -/
  | usage
  /-- Help was asked for. -/
  | help
  /-- The version was asked for. -/
  | version
  deriving DecidableEq

namespace Arguments

/-- What holds without arguments. -/
def default : Arguments := ⟨none, none, none, false, .text, false⟩

/-- Where the reading of arguments stands. -/
structure Progress where
  /-- What the arguments so far ask for. -/
  arguments : Arguments
  /-- The flags so far. -/
  given : List Flag
  /-- The flag that waits for its value in the next argument. -/
  waiting : Option Flag
  /-- Whether the flags have ended. -/
  ended : Bool

/-- Before the first argument. -/
def Progress.start : Progress := ⟨default, [], none, false⟩

/-- What a flag with its value asks for, if the value is one for the flag. -/
def setValue (a : Arguments) (value : String) : Flag → Option Arguments
  | .settings => if value = "" then none else some { a with settings := some value }
  | .tempAttr => some { a with tempName := some value }
  | .format => (ReportFormat.ofName? value).map fun f => { a with format := f }
  | _ => none

/-- What a flag without value asks for. -/
def setSwitch (a : Arguments) : Flag → Except Halt Arguments
  | .noFrame => .ok { a with noFrame := true }
  | .verbose => .ok { a with verbose := true }
  | .help => .error .help
  | .version => .error .version
  | _ => .error .usage

namespace Progress

/-- Takes a flag that is allowed here: none waits for its value, and it is the first of its kind. -/
def take (p : Progress) (flag : Flag) : Except Halt Progress :=
  if p.waiting.isSome ∨ flag ∈ p.given then .error .usage
  else .ok { p with given := flag :: p.given }

/-- Takes a flag with its value. -/
def takeValue (p : Progress) (flag : Flag) (value : String) : Except Halt Progress := do
  let p ← p.take flag
  match p.arguments.setValue value flag with
  | some a => return { p with arguments := a }
  | none => throw .usage

/-- Takes a flag without value. -/
def takeSwitch (p : Progress) (flag : Flag) : Except Halt Progress := do
  let p ← p.take flag
  return { p with arguments := ← p.arguments.setSwitch flag }

/-- Takes a flag whose value, if it has one, is the next argument. -/
def takeBare (p : Progress) (flag : Flag) : Except Halt Progress :=
  if flag.takesValue then
    if p.waiting.isSome then .error .usage else .ok { p with waiting := some flag }
  else p.takeSwitch flag

/-- Takes the formula. -/
def takeFormula (p : Progress) (formula : String) : Except Halt Progress :=
  if p.waiting.isSome ∨ p.arguments.formula.isSome then .error .usage
  else .ok { p with arguments := { p.arguments with formula := some formula } }

/-- Takes what follows two hyphens. -/
def takeLong (p : Progress) (text : List Char) : Except Halt Progress :=
  let name := String.ofList (text.takeWhile (· ≠ '='))
  match Flag.ofLong? name, text.dropWhile (· ≠ '=') with
  | none, _ => .error .usage
  | some flag, [] => p.takeBare flag
  | some flag, _ :: value =>
    if flag.takesValue then p.takeValue flag (String.ofList value) else .error .usage

/-- Takes letters that follow one hyphen. -/
def takeLetters (p : Progress) : List Char → Except Halt Progress
  | [] => .ok p
  | c :: rest =>
    match Flag.ofLetter? c with
    | none => .error .usage
    | some flag =>
      if flag.takesValue then
        match rest with
        | [] => p.takeBare flag
        | '=' :: value => p.takeValue flag (String.ofList value)
        | value => p.takeValue flag (String.ofList value)
      else (p.takeSwitch flag).bind fun p => p.takeLetters rest

/-- Takes an argument that is no flag: the value that is waited for, or the formula. -/
def takePlain (p : Progress) (argument : String) : Except Halt Progress :=
  match p.waiting with
  | some flag => { p with waiting := none }.takeValue flag argument
  | none => p.takeFormula argument

/-- Takes one argument. -/
def step (p : Progress) (argument : String) : Except Halt Progress :=
  if p.ended then p.takeFormula argument
  else
    match argument.toList with
    | ['-', '-'] => .ok { p with ended := true }
    | '-' :: '-' :: text => p.takeLong text
    | ['-'] => p.takePlain argument
    | '-' :: letters => p.takeLetters letters
    | _ => p.takePlain argument

/-- What all arguments ask for; no flag may still wait for its value. -/
def finish (p : Progress) : Except Halt Arguments :=
  if p.waiting.isSome then .error .usage else .ok p.arguments

end Progress

/-- Reads the arguments. -/
def ofList (arguments : List String) : Except Halt Arguments := do
  (← arguments.foldlM Progress.step .start).finish

end Arguments

end FormulaChain
