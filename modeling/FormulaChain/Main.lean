import FormulaChain.CommandLine.Run

/-!
# The command line

Reads the settings file if one is named, and prints the reply.
-/

namespace FormulaChain

/-- What the number of a failure means. -/
def meaning? (number : UInt32) : Option String :=
  [(2, "No such file or directory"), (13, "Permission denied"), (20, "Not a directory"),
    (21, "Is a directory"), (36, "File name too long"), (40, "Too many levels of symbolic links")]
    |>.lookup number

/-- The words for a failure with a number, which may have been negated. -/
def numberedFailure (number : UInt32) (details : String) : String :=
  let number := if number < 0x80000000 then number else 0 - number
  let meaning := (meaning? number).getD details
  s!"{meaning} (os error {number})"

/-- Why a file could not be read. -/
def failureReason : IO.Error → String
  | .noFileOrDirectory _ number details => numberedFailure number details
  | .permissionDenied _ number details => numberedFailure number details
  | .inappropriateType _ number details => numberedFailure number details
  | .invalidArgument _ number details => numberedFailure number details
  | e => toString e

/-- The text of a file, or why there is none. -/
def readText (path : String) : IO (Except String String) := do
  try
    match String.fromUTF8? (← IO.FS.readBinFile path) with
    | some text => return .ok text
    | none => return .error "stream did not contain valid UTF-8"
  catch e => return .error (failureReason e)

/-- The reply to a command line, for which the settings file is read. -/
def replyTo (arguments : List String) : IO Reply := do
  match Arguments.ofList arguments with
  | .error halt => return .halted halt
  | .ok a =>
    let text ← match a.settings with
      | some path => readText path
      | none => pure (.ok "")
    return a.reply fun _ => text

end FormulaChain

/-- Compiles the formula of a command line and prints the report on it. -/
def main (arguments : List String) : IO UInt32 := do
  let reply ← FormulaChain.replyTo arguments
  IO.print reply.output
  for text in reply.error do IO.eprintln text
  return reply.exitCode.toUInt32
