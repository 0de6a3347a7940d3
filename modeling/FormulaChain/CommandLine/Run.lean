import FormulaChain.Catalog.Builtin
import FormulaChain.CommandLine.Arguments
import FormulaChain.Graph.Sink
import FormulaChain.Storage.Settings

/-!
# Running a command line

The settings of the file come first and are checked, the arguments override them, and what results
is checked again. The formula is compiled into an empty graph and the report on it is printed. The
exit code tells whether the build was finished, was cancelled, or never took place.
-/

namespace FormulaChain

namespace Arguments

/-- Settings with what the arguments say about them. -/
def override (a : Arguments) (s : Settings) : Settings where
  formula := a.formula.getD s.formula
  tempName := a.tempName.getD s.tempName
  addFrame := s.addFrame && !a.noFrame

/-- The settings of the file, or those of a new user if there is no file; `readFile` gives the text
of a file or the reason why there is none. -/
def baseSettings (a : Arguments) (readFile : String → Except String String) :
    Except SettingsError Settings :=
  match a.settings with
  | none => .ok .default
  | some path =>
    match readFile path with
    | .error reason => .error (.unreadable path reason)
    | .ok text => Settings.ofText text

/-- The settings that the command line asks for. -/
def resolve (a : Arguments) (readFile : String → Except String String) :
    Except SettingsError Settings := do
  (a.override (← a.baseSettings readFile)).validate

end Arguments

/-- What a run leaves behind. -/
structure Reply where
  /-- The exit code. -/
  exitCode : Nat
  /-- What is printed. -/
  output : String
  /-- What is printed as an error. -/
  error : Option String
  deriving DecidableEq

namespace Reply

/-- The name and the version of the program. -/
def versionText : String := "math-formula 0.1.0"

/-- The text about a wrong command line. -/
def usageText : String :=
  "Usage: math-formula [OPTIONS] [FORMULA]\n\nFor more information, try '--help'."

/-- The text about the arguments. -/
def helpText : String := "\n".intercalate [
  "Compile an RPN math formula into attribute math nodes",
  "",
  "Usage: math-formula [OPTIONS] [FORMULA]",
  "",
  "Arguments:",
  "  [FORMULA]  Formula in Reverse Polish Notation; overrides the settings file",
  "",
  "Options:",
  "  -s, --settings <SETTINGS>    RON settings file",
  "      --temp-attr <TEMP_ATTR>  Prefix of intermediate result attributes",
  "      --no-frame               Do not put the nodes in a frame",
  "  -o, --format <FORMAT>        Report format [default: text] [possible values: text, ron, json]",
  "  -v, --verbose                Log every emitted node",
  "  -h, --help                   Print help",
  "  -V, --version                Print version"]

/-- A text and a line break on the output. -/
def printed (exitCode : Nat) (text : String) : Reply := ⟨exitCode, text ++ "\n", none⟩

/-- A failure of the run. -/
def failed (message : String) : Reply := ⟨1, "", some ("error: " ++ message)⟩

/-- The reply to arguments that ask for no compilation. -/
def halted : Halt → Reply
  | .usage => ⟨2, "", some usageText⟩
  | .help => printed 0 helpText
  | .version => printed 0 versionText

/-- The reply to a report: a cancelled build has an exit code of its own. -/
def reported (r : Report) (format : ReportFormat) : Reply :=
  printed (if r.status = .cancelled then 2 else 0) (r.render format)

/-- The reply to settings: their formula is compiled into an empty graph. -/
def compiled (s : Settings) (format : ReportFormat) : Reply :=
  match Graph.sink.compile .builtin s .default with
  | (.ok o, g) => reported (.ofOutput s.formula o g) format
  | (.error e, _) => failed (e.message (Graph.refusalMessage .identities))

end Reply

/-- The reply to arguments that ask for a compilation. -/
def Arguments.reply (a : Arguments) (readFile : String → Except String String) : Reply :=
  match a.resolve readFile with
  | .error e => .failed e.message
  | .ok s => .compiled s a.format

/-- The reply to a command line. -/
def run (arguments : List String) (readFile : String → Except String String) : Reply :=
  match Arguments.ofList arguments with
  | .error halt => .halted halt
  | .ok a => a.reply readFile

end FormulaChain
