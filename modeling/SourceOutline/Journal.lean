import SourceOutline.Diagnostic
import SourceOutline.Log.Entry

/-!
# The journal of an extraction

Extraction is a pure function that also says what it did: which events it reported, which
diagnostics it recorded and at which nodes it asked for a symbol. The journal survives a
failure, since what happened before the failure was already reported.
-/

namespace SourceOutline

/-- What the program reports about its own work. -/
inductive Event where
  | symbolsBound (module : Option String) (globals namespaces : Nat)
  | syntaxErrorsPresent (path : String)
  | diagnosticRecorded (diagnostic : Diagnostic)
  | structureCollected (module : String) (children : Nat)
  | parsedFile (path : String) (elements diagnostics : Nat)
  | failedToReadFile (path error : String)
  | discoveredFiles (count : Nat) (root : String)
  | noSourceFilesFound (root : String)
  | fileTooLarge (path : String)
  | readError (path error : String)
  | projectExtracted (files errors warnings : Nat)
  | extractionDiagnostic (path : String) (diagnostic : Diagnostic)
  | modelWritten (path : String)
  | structureExtracted (path : String) (elements diagnostics : Nat)
  | unhandledFailure (path method error : String)
  | startingApplication (name version environment : String)
  | shuttingDownApplication
  deriving DecidableEq, Repr

namespace Event

/-- The level, name and fields under which an event is logged. -/
def describe : Event → Log.Level × String × List (String × Json)
  | symbolsBound module globals namespaces =>
    (.debug, "symbols_bound",
      [("module", .optional .string module), ("globals", .nat globals),
        ("namespaces", .nat namespaces)])
  | syntaxErrorsPresent path => (.debug, "syntax_errors_present", [("path", .string path)])
  | diagnosticRecorded diagnostic =>
    (.debug, "diagnostic_recorded",
      [("severity", .string diagnostic.severity.label), ("message", .string diagnostic.message),
        ("line", diagnostic.lineJson)])
  | structureCollected module children =>
    (.debug, "structure_collected", [("module", .string module), ("children", .nat children)])
  | parsedFile path elements diagnostics =>
    (.debug, "parsed_file",
      [("path", .string path), ("elements", .nat elements), ("diagnostics", .nat diagnostics)])
  | failedToReadFile path error =>
    (.error, "failed_to_read_file", [("path", .string path), ("error", .string error)])
  | discoveredFiles count root =>
    (.info, "discovered_files", [("count", .nat count), ("root", .string root)])
  | noSourceFilesFound root => (.warning, "no_typescript_files_found", [("root", .string root)])
  | fileTooLarge path => (.warning, "file_too_large", [("path", .string path)])
  | readError path error =>
    (.warning, "read_error", [("path", .string path), ("error", .string error)])
  | projectExtracted files errors warnings =>
    (.info, "project_extracted",
      [("files", .nat files), ("errors", .nat errors), ("warnings", .nat warnings)])
  | extractionDiagnostic path diagnostic =>
    (.warning, "extraction_diagnostic",
      [("path", .string path), ("severity", .string diagnostic.severity.label),
        ("message", .string diagnostic.message), ("line", diagnostic.lineJson)])
  | modelWritten path => (.info, "model_written", [("path", .string path)])
  | structureExtracted path elements diagnostics =>
    (.debug, "structure_extracted",
      [("path", .string path), ("elements", .nat elements), ("diagnostics", .nat diagnostics)])
  | unhandledFailure path method error =>
    (.error, "unhandled_exception",
      [("path", .string path), ("method", .string method), ("error", .string error)])
  | startingApplication name version environment =>
    (.info, "starting_application",
      [("app_name", .string name), ("version", .string version),
        ("environment", .string environment)])
  | shuttingDownApplication => (.info, "shutting_down_application", [])

def toEntry (event : Event) : Log.Entry :=
  let (level, name, fields) := event.describe
  { word := level.label
    event := .string name
    fields := fields.map fun (key, json) => (key, .data json) }

/-- An event as one object: level, name, then its fields. -/
def toJson (event : Event) : Json :=
  let (level, name, fields) := event.describe
  .object (("level", .string level.label) :: ("event", .string name) :: fields)

end Event

structure Journal where
  events : List Event := []
  diagnostics : List Diagnostic := []
  /-- The nodes at which a symbol was asked for. -/
  lookups : List Nat := []
  deriving Repr, Inhabited

/-- A computation that may fail and keeps a journal in either case. -/
abbrev Recorded (α : Type) : Type := ExceptT Failure (StateM Journal) α

namespace Recorded

/-- Run a computation on an empty journal. -/
def run {α : Type} (computation : Recorded α) : Except Failure α × Journal :=
  StateT.run (ExceptT.run computation) {}

/-- A computation that records nothing. -/
def ofExcept {α : Type} (result : Except Failure α) : Recorded α :=
  ExceptT.mk (pure result)

def report (event : Event) : Recorded Unit :=
  modify fun journal => { journal with events := journal.events ++ [event] }

/-- Record a diagnostic; every one is reported as well. -/
def diagnose (diagnostic : Diagnostic) : Recorded Unit := do
  modify fun journal => { journal with diagnostics := journal.diagnostics ++ [diagnostic] }
  report (.diagnosticRecorded diagnostic)

/-- Note that a symbol is asked for at a node. -/
def noteLookup (id : Nat) : Recorded Unit :=
  modify fun journal => { journal with lookups := journal.lookups ++ [id] }

end Recorded

end SourceOutline
