import SourceOutline.CommandLine.Run
import SourceOutline.Json.Reader
import SourceOutline.Log.Line
import SourceOutline.Project.Reader

/-!
# The command

The outermost layer. Standard input holds the files with their syntax trees, the environment
holds the settings, and the arguments say what to do with them. Everything is decided by
`CommandLine.run`; here its answer is printed, written and turned into an exit status, and
the events on the way become log lines on the error output.
-/

namespace SourceOutline.Main

/-- The variables that the settings ask for, in capitals. -/
def variableNames : List String :=
  let ofSection {α : Type} (spec : Settings.Section α) : List String :=
    spec.fields.map fun field => spec.rules.start ++ field.1
  (["app_name", "app_version", "environment", "extractor", "api", "logging"] ++
    ofSection Settings.extractorSection ++ ofSection Settings.apiSection ++
    ofSection Settings.loggingSection).map Text.upperCase

def readEnvironment : List String → IO Settings.Environment
  | [] => return []
  | name :: rest => do
    let value ← IO.getEnv name
    let others ← readEnvironment rest
    return (value.map fun text => (name, text)).toList ++ others

/-- Write log lines, if the settings allow any. The time of a line is the time since the
machine was started, in milliseconds. -/
def writeLog (settings : Except Settings.Refusal Settings) (events : List Event) : IO Unit := do
  let time := toString (← IO.monoMsNow)
  match settings with
  | .error _ => pure ()
  | .ok settings =>
    for line in (Log.lines settings time (events.map Event.toEntry)).toOption.getD [] do
      IO.eprintln line

/-- Carry out an answer. -/
def finish (exit : CommandLine.Exit) : IO UInt32 := do
  IO.print exit.stdout
  IO.eprint exit.stderr
  match exit.written with
  | none => pure ()
  | some file => IO.FS.writeFile (Path.text { anchor := .slash, parts := file.parts }) file.text
  return exit.status.toUInt32

/-- The line for a run that ends without an answer. -/
def abortMessage : CommandLine.Abort → String
  | .settings refusal => refusal.message
  | .output fault => fault.description
  | .noIndent => "The indentation is missing"
  | .hugeIndent | .noRoom => "The indentation is too large"

def execute (arguments : List String) : IO UInt32 := do
  let location := Path.ofText (toString (← IO.currentDir))
  let input ← (← IO.getStdin).readToEnd
  let tree := FileTree.ofJson location ((Json.parse input).toOption.getD .null)
  let settings := Settings.load (← readEnvironment variableNames)
  let (result, journal) := (CommandLine.run arguments tree settings).run
  writeLog settings journal.events
  match result with
  | .ok (.ok exit) => finish exit
  | .ok (.error abort) =>
    IO.eprintln (abortMessage abort)
    return 1
  | .error failure =>
    IO.eprintln failure.message
    return 1

end SourceOutline.Main

def main (arguments : List String) : IO UInt32 :=
  SourceOutline.Main.execute arguments
