/-!
# Diagnostics

What is wrong with a formula never stops its compilation by itself: it is reported and a substitute
is used. The one exception is a result arrow with nothing before it, which cancels the build.
-/

namespace FormulaChain

/-- How serious a diagnostic is. -/
inductive Severity where
  /-- The build went on with a substitute. -/
  | warning
  /-- The build was cancelled. -/
  | error
  deriving DecidableEq

namespace Severity

/-- The word that begins a diagnostic's text. -/
def word : Severity → String
  | .warning => "warning"
  | .error => "error"

/-- The name of a severity. -/
def text : Severity → String
  | .warning => "Warning"
  | .error => "Error"

/-- A warning is less serious than an error. -/
def rank : Severity → Nat
  | .warning => 0
  | .error => 1

end Severity

/-- What went wrong. -/
inductive DiagnosticKind where
  /-- A part of a vector literal is not what it should be. -/
  | malformedOperand
  /-- An operator ran out of operands. -/
  | argumentUnderflow
  /-- A result arrow was met before any node was emitted. -/
  | unassignableResult
  deriving DecidableEq

namespace DiagnosticKind

/-- The severity of a kind. -/
def severity : DiagnosticKind → Severity
  | .malformedOperand => .warning
  | .argumentUnderflow => .warning
  | .unassignableResult => .error

/-- Whether a kind cancels the build. -/
def isFatal (k : DiagnosticKind) : Bool := k.severity = .error

/-- All kinds. -/
def all : List DiagnosticKind := [.malformedOperand, .argumentUnderflow, .unassignableResult]

/-- The name of a kind. -/
def text : DiagnosticKind → String
  | .malformedOperand => "MalformedOperand"
  | .argumentUnderflow => "ArgumentUnderflow"
  | .unassignableResult => "UnassignableResult"

end DiagnosticKind

/-- A report on a formula. -/
structure Diagnostic where
  /-- How serious it is. -/
  severity : Severity
  /-- What went wrong. -/
  kind : DiagnosticKind
  /-- The message to the writer of the formula. -/
  message : String
  deriving DecidableEq

namespace Diagnostic

/-- A diagnostic with the severity of its kind. -/
def ofKind (kind : DiagnosticKind) (message : String) : Diagnostic :=
  ⟨kind.severity, kind, message⟩

/-- The text of a diagnostic. -/
def text (d : Diagnostic) : String := d.severity.word ++ ": " ++ d.message

end Diagnostic

end FormulaChain
