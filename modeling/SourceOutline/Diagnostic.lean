import SourceOutline.Json.Basic
import SourceOutline.Syntax.Document

/-!
# Diagnostics

A diagnostic is a problem that did not stop the extraction. It may point to the place in
the source where it was found.
-/

namespace SourceOutline

inductive Severity where
  | warning
  | error
  deriving DecidableEq, Repr

def Severity.label : Severity → String
  | warning => "warning"
  | error => "error"

structure Diagnostic where
  severity : Severity
  message : String
  position : Option Position := none
  deriving DecidableEq, Repr

namespace Diagnostic

def lineJson (diagnostic : Diagnostic) : Json :=
  .optional (fun position => .nat position.line) diagnostic.position

def toJson (diagnostic : Diagnostic) : Json :=
  .object [
    ("severity", .string diagnostic.severity.label),
    ("message", .string diagnostic.message),
    ("line", diagnostic.lineJson),
    ("column", .optional (fun position => .nat position.column) diagnostic.position)]

/-- How many diagnostics are warnings. -/
def warningCount (diagnostics : List Diagnostic) : Nat :=
  diagnostics.countP (fun diagnostic => diagnostic.severity = .warning)

end Diagnostic

end SourceOutline
