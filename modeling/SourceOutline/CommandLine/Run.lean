import SourceOutline.CommandLine.Arguments
import SourceOutline.Json.Printer
import SourceOutline.Project.Basic

/-!
# Running a command line

A run takes a file or a directory and writes its outline as JSON, to a file or to the
output. It is a function of the arguments, the file tree and the settings; the settings are
only looked at for a directory.
-/

namespace SourceOutline.CommandLine

def usageLine : String :=
  "usage: extract_structure.py [-h] [--output OUTPUT] [--indent INDENT] path\n"

def helpText : String :=
  usageLine ++ "\n" ++
  "Extract the structural model of TypeScript sources as JSON\n\n" ++
  "positional arguments:\n" ++
  "  path                  TypeScript file or project directory\n\n" ++
  "options:\n" ++
  "  -h, --help            show this help message and exit\n" ++
  "  --output OUTPUT, -o OUTPUT\n" ++
  "                        Write JSON to this file instead of stdout\n" ++
  "  --indent INDENT       JSON indentation (default: 2)\n"

/-- A file that the run writes. -/
structure Written where
  /-- Its components from the root on. -/
  parts : List String
  text : String
  deriving DecidableEq, Repr

/-- How a run ends. -/
structure Exit where
  status : Nat
  stdout : String := ""
  stderr : String := ""
  written : Option Written := none
  deriving DecidableEq, Repr

/-- Why a run ends without an exit status of its own. -/
inductive Abort where
  | settings (refusal : Settings.Refusal)
  | output (fault : FileTree.Fault)
  /-- The indentation is no number. -/
  | noIndent
  /-- The indentation does not fit a machine word. -/
  | hugeIndent
  /-- There is no room for a line of this indentation. -/
  | noRoom

/-- How a command line that is not carried out ends. -/
def Stop.exit : Stop → Exit
  | help => { status := 0, stdout := helpText }
  | usage message =>
    { status := 2, stderr := usageLine ++ "extract_structure.py: error: " ++ message ++ "\n" }

def failed (message : String) : Exit := { status := 1, stderr := "Error: " ++ message ++ "\n" }

/-- Indentations up to this one are carried out. -/
def roomForIndent : Nat := 1000000000000

/-- The layout for an indentation; a negative one counts as none. -/
def styleOf (indent : Option Int) : Except Abort Json.Style :=
  match indent with
  | none => .error .noIndent
  | some n =>
    let bound : Int := Settings.machineBound
    if n < -bound || bound ≤ n then .error .hugeIndent
    else if roomForIndent < n then .error .noRoom
    else .ok (.indented n.toNat)

/-- Write a payload where the command says. -/
def deliver (tree : FileTree) (command : Command) (payload : Json) :
    Recorded (Except Abort Exit) := do
  match styleOf command.indent with
  | .error abort => return .error abort
  | .ok style =>
    let text := payload.render style ++ "\n"
    match command.output with
    | none => return .ok { status := 0, stdout := text }
    | some output =>
      let path := Path.ofText output
      if path.hasNull then throw .nullInPath
      match tree.target path with
      | .error fault => return .error (.output fault)
      | .ok parts =>
        Recorded.report (.modelWritten path.text)
        return .ok { status := 0, written := some { parts := parts, text := text } }

/-- Report every diagnostic of a file. -/
def reportDiagnostics (path : String) : List Diagnostic → Recorded Unit
  | [] => pure ()
  | diagnostic :: rest => do
    Recorded.report (.extractionDiagnostic path diagnostic)
    reportDiagnostics path rest

/-- Carry out a command. -/
def Command.run (command : Command) (tree : FileTree)
    (settings : Except Settings.Refusal Settings) : Recorded (Except Abort Exit) := do
  let path := Path.ofText command.path
  let found ←
    match tree.exists? path with
    | .ok found => pure (found && !path.hasNull)
    | .error _ => throw (.longName path.text)
  if !found then
    return .ok (failed ("Path does not exist: " ++ path.text))
  else if tree.isDirectory path then
    match settings with
    | .error refusal => return .error (.settings refusal)
    | .ok settings =>
      let project ← Project.extract tree settings.extractor path
      if project.success then deliver tree command project.toJson
      else return .ok (failed ("No TypeScript files found under " ++ path.text))
  else
    let extraction ← extractFile tree path
    reportDiagnostics path.text extraction.diagnostics
    deliver tree command extraction.toJson

/-- Run a command line. -/
def run (arguments : List String) (tree : FileTree)
    (settings : Except Settings.Refusal Settings) : Recorded (Except Abort Exit) :=
  match Command.parse arguments with
  | .error stop => return .ok stop.exit
  | .ok command => command.run tree settings

end SourceOutline.CommandLine
