import SourceOutline.Outline.Walk
import SourceOutline.Path

/-!
# Extracting the outline of one file

The root module is named after the file without its suffix and carries the file's directory
as its path. Extraction binds the file first and walks its tree afterwards, so a failure to
bind is reported before any failure of the walk.
-/

namespace SourceOutline

/-- The elements of a file, the number of its root module, and what was found wrong. -/
structure Extraction where
  registry : Registry
  root : Nat
  diagnostics : List Diagnostic
  deriving Inhabited

namespace Extraction

/-- The root module with everything below it. -/
def module (extraction : Extraction) : Element := extraction.registry.view extraction.root

def elementCount (extraction : Extraction) : Nat :=
  extraction.registry.childCount extraction.root

def warningCount (extraction : Extraction) : Nat :=
  Diagnostic.warningCount extraction.diagnostics

/-- The qualified names of all elements in pre-order. -/
def qualifiedNames (extraction : Extraction) : List String :=
  (extraction.registry.preorder extraction.root).map extraction.registry.qualifiedName

/-- The module and the diagnostics as members of an object. -/
def members (extraction : Extraction) : List (String × Json) :=
  [("module", extraction.module.toJson),
    ("diagnostics", .array (extraction.diagnostics.map Diagnostic.toJson))]

/-- The extraction as JSON. No time is measured. -/
def toJson (extraction : Extraction) : Json :=
  .object (extraction.members ++ [("parse_time_ms", .float 0.0)])

end Extraction

/-- The path that names a file as a module. -/
def modulePath (path : String) : Path := (Path.ofText path).withoutSuffix

/-- The root module of a file, still empty. -/
def rootModule (path : String) : Traits :=
  let stem := modulePath path
  { name := stem.name, detail := .module (some stem.parent.text) }

/-- Walk a whole tree under a fresh root module. -/
def collect (document : Document) (path : String) (resolver : Resolver) :
    Recorded (Registry × Nat) := do
  let traits := rootModule path
  let (registry, root) := Registry.create {} traits none
  let grown ← walk document resolver [(document.rootSite, root)] registry
  Recorded.report (.structureCollected traits.name (grown.childCount root))
  return (grown, root)

/-- Bind a file under a module name. -/
def bindScopes (document : Document) (moduleName : Option String) : Recorded Scopes := do
  let scopes ← Recorded.ofExcept (Scopes.bind document moduleName)
  Recorded.report (.symbolsBound moduleName scopes.globals.length scopes.blocks.length)
  return scopes

/-- Extract the outline of a file. The diagnostics are those recorded on the way. -/
def extract (document : Document) (path : String) : Recorded Extraction := do
  let scopes ← bindScopes document (some (modulePath path).text)
  if document.hasErrors then Recorded.report (.syntaxErrorsPresent path)
  let (registry, root) ← collect document path (scopes.resolver document)
  let journal ← get
  return { registry := registry, root := root, diagnostics := journal.diagnostics }

/-- The two grammars that a source file can be written in. -/
inductive Grammar where
  | typescript
  | tsx
  deriving DecidableEq, Repr

def Grammar.label : Grammar → String
  | typescript => "typescript"
  | tsx => "tsx"

/-- The grammar is chosen by the suffix of the file. -/
def Grammar.ofPath (path : String) : Grammar :=
  if (Path.ofText path).suffix == ".tsx" then tsx else typescript

end SourceOutline
