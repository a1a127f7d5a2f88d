import SourceOutline.Project.FileTree
import SourceOutline.Syntax.Reader

/-!
# Reading file trees

A parser hands over the files it has read as one JSON object. Its `files` are entries with a
`path` relative to the working directory; an entry for a file also holds the `source` text and
the finished `tree`, and an entry without a source text is a directory.
-/

namespace SourceOutline.FileTree

/-- Put an item at its place among entries, instead of the one that is there. -/
def put (parts : List String) (item : Item) : List (List String × Item) → List (List String × Item)
  | [] => [(parts, item)]
  | entry :: rest => if entry.1 = parts then (parts, item) :: rest else entry :: put parts item rest

/-- A file tree with an item at components below its location. -/
def insert (tree : FileTree) (parts : List String) (item : Item) : FileTree :=
  { tree with entries := put parts item tree.entries }

def readItem (json : Json) : Item :=
  match json.field? "source" with
  | some (.string text) =>
    .file { document := Document.ofJson text.toUTF8 ((json.field? "tree").getD .null) }
  | _ => .directory

/-- Add the item of an entry; an entry without a path adds nothing. -/
def addEntry (tree : FileTree) (json : Json) : FileTree :=
  match json.field? "path" with
  | some (.string path) => tree.insert (Path.ofText path).parts (readItem json)
  | _ => tree

/-- The file tree at a location. -/
def ofJson (location : Path) (json : Json) : FileTree :=
  let empty : FileTree := { location := location, entries := [] }
  match json.field? "files" with
  | some (.array entries) => entries.foldl addEntry empty
  | _ => empty

end SourceOutline.FileTree
