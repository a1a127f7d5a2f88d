import SourceOutline.Extraction
import SourceOutline.Project.FileTree
import SourceOutline.Settings.Load

/-!
# Extracting files and projects

A project is a directory. Its source files are the files below it with a configured suffix,
leaving out declaration files and whatever lies under an ignored name; they are taken in the
order of their components. Every file is extracted on its own, under its path relative to
the project, so its outline depends neither on the other files nor on where the project
lies.
-/

namespace SourceOutline

/-- Run a computation on a journal of its own and keep only the events it reported. -/
def Recorded.isolated {α : Type} (computation : Recorded α) : Recorded α := do
  let (result, journal) := computation.run
  modify fun outer => { outer with events := outer.events ++ journal.events }
  Recorded.ofExcept result

/-- The extraction of a file that could not be read: a root module without children. -/
def unreadableExtraction (path : String) (diagnostics : List Diagnostic) : Extraction :=
  let (registry, root) := Registry.create {} (rootModule path) none
  { registry := registry, root := root, diagnostics := diagnostics }

/-- Extract the file at a path. A file that cannot be read gives an error diagnostic. -/
def extractFile (tree : FileTree) (path : Path) : Recorded Extraction := do
  let name := path.text
  if path.hasNull then throw .nullInPath
  match tree.read path with
  | .error fault =>
    let error := fault.message name
    Recorded.report (.failedToReadFile name error)
    Recorded.diagnose { severity := .error, message := "Unable to read file: " ++ error }
    return unreadableExtraction name (← get).diagnostics
  | .ok file =>
    let extraction ← extract file.document name
    Recorded.report (.parsedFile name extraction.elementCount extraction.diagnostics.length)
    return extraction

namespace Project

/-- Component-wise order of relative paths. -/
def precedes : List String → List String → Bool
  | [], _ => true
  | _ :: _, [] => false
  | a :: as, b :: bs => if a = b then precedes as bs else decide (a < b)

/-- Whether a file belongs to the project, by its components relative to the root. -/
def isSource (settings : ExtractorSettings) (parts : List String) : Bool :=
  let name := parts.getLast?.getD ""
  settings.fileExtensions.contains (Path.splitName name).2 &&
    !(settings.skipDeclarationFiles && ".d.ts".toList.isSuffixOf name.toList) &&
    !settings.ignorePatterns.any parts.contains

/-- The source files below a root, in order, with their relative components. -/
def discover (tree : FileTree) (settings : ExtractorSettings) (root : Path) :
    List (List String × SourceFile) :=
  ((tree.filesBelow root).filter fun entry => isSource settings entry.1).mergeSort
    fun a b => precedes a.1 b.1

end Project

/-- The outlines of a project's files, each with the file's relative path, and the files that
have none. -/
structure Project where
  root : Path
  results : List (String × Extraction) := []
  errors : List String := []
  deriving Inhabited

namespace Project

/-- Whether at least one file was extracted. -/
def success (project : Project) : Bool := !project.results.isEmpty

def warningCount (project : Project) : Nat :=
  project.results.foldl (fun count result => count + result.2.warningCount) 0

/-- Extract one file of a project, or note why it has no outline. The size is checked before
the file is read. -/
def addFile (settings : ExtractorSettings) (project : Project)
    (entry : List String × SourceFile) : Recorded Project := do
  let relative : Path := { anchor := .here, parts := entry.1 }
  let name := relative.text
  if settings.isTooLarge entry.2.size then
    Recorded.report (.fileTooLarge name)
    return { project with errors := project.errors ++ [name ++ ": file too large"] }
  else if !entry.2.readable then
    let error := FileTree.Fault.denied.message (project.root.append relative).text
    Recorded.report (.readError name error)
    return { project with errors := project.errors ++ [name ++ ": " ++ error] }
  else
    let extraction ← Recorded.isolated (extract entry.2.document name)
    return { project with results := project.results ++ [(name, extraction)] }

/-- Extract files in order. -/
def addFiles (settings : ExtractorSettings) (project : Project) :
    List (List String × SourceFile) → Recorded Project
  | [] => pure project
  | entry :: rest => do
    let grown ← project.addFile settings entry
    addFiles settings grown rest

/-- Extract every source file below a directory. -/
def extract (tree : FileTree) (settings : ExtractorSettings) (directory : Path) :
    Recorded Project := do
  if directory.hasNull then throw .nullInPath
  let root := tree.resolve directory
  if let .error _ := tree.exists? root then throw (.longName root.text)
  let files := discover tree settings root
  Recorded.report (.discoveredFiles files.length root.text)
  if files.isEmpty then Recorded.report (.noSourceFilesFound root.text)
  let project ← addFiles settings { root := root } files
  Recorded.report
    (.projectExtracted project.results.length project.errors.length project.warningCount)
  return project

/-- The project as JSON. No time is measured. -/
def toJson (project : Project) : Json :=
  .object [
    ("root", .string project.root.text),
    ("files", .array (project.results.map fun result => result.2.toJson)),
    ("errors", .strings project.errors),
    ("elapsed_ms", .float 0.0)]

end Project

end SourceOutline
