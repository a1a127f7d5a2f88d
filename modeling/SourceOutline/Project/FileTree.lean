import SourceOutline.Path
import SourceOutline.Syntax.Document
import SourceOutline.Text.Literal

/-!
# File trees

A file tree is the part of a file system that the program can see: a directory at some
location, which is also the working directory, with its entries listed by the components of
their paths. Directories on the way to an entry exist without being listed, and so do those
on the way to the location. Elsewhere there is only the null device, an empty file that can
be written without a trace. Files carry their content together with its finished syntax tree.

Opening a path follows its components one by one from the root, so a missing directory, a
file used as a directory and a directory used as a file are told apart.
-/

namespace SourceOutline

structure SourceFile where
  document : Document
  readable : Bool := true
  deriving Inhabited

/-- Size in bytes. -/
def SourceFile.size (file : SourceFile) : Nat := file.document.content.size

namespace FileTree

inductive Item where
  | file (file : SourceFile)
  | directory
  deriving Inhabited

/-- Why a path cannot be opened. -/
inductive Fault where
  | noEntry
  | denied
  | notDirectory
  | isDirectory
  | nameTooLong
  deriving DecidableEq, Repr

namespace Fault

def number : Fault → Nat
  | noEntry => 2
  | denied => 13
  | notDirectory => 20
  | isDirectory => 21
  | nameTooLong => 36

def description : Fault → String
  | noEntry => "No such file or directory"
  | denied => "Permission denied"
  | notDirectory => "Not a directory"
  | isDirectory => "Is a directory"
  | nameTooLong => "File name too long"

/-- The report of a fault at a path. -/
def message (fault : Fault) (path : String) : String :=
  "[Errno " ++ toString fault.number ++ "] " ++ fault.description ++ ": " ++ Text.literal path

end Fault

end FileTree

structure FileTree where
  /-- An absolute path. -/
  location : Path
  entries : List (List String × FileTree.Item)
  deriving Inhabited

namespace FileTree

/-- What is found at components below the location. -/
def inner? (tree : FileTree) (parts : List String) : Option Item :=
  match tree.entries.lookup parts with
  | some item => some item
  | none =>
    if parts.isEmpty || tree.entries.any (fun entry => parts.isPrefixOf entry.1) then
      some .directory
    else none

/-- The part of absolute components that lies below the location, if they lead there. -/
def inside? (tree : FileTree) (parts : List String) : Option (List String) :=
  if tree.location.parts.isPrefixOf parts then some (parts.drop tree.location.parts.length)
  else none

/-- The components of the null device. -/
def nullDevice : List String := ["dev", "null"]

/-- What is found at absolute components. -/
def item? (tree : FileTree) (parts : List String) : Option Item :=
  match tree.inside? parts with
  | some inner => tree.inner? inner
  | none =>
    if parts = nullDevice then some (.file default)
    else if parts.isPrefixOf tree.location.parts || parts.isPrefixOf nullDevice then
      some .directory
    else none

/-- The components of a path from the root on. -/
def fromRoot (tree : FileTree) (path : Path) : List String :=
  if path.anchor = .here then tree.location.parts ++ path.parts else path.parts

/-- The greatest length of a component in bytes. -/
def componentLimit : Nat := 255

/-- The greatest length of a whole path in bytes. -/
def pathLimit : Nat := 4095

/-- Follow components from a directory, given by its own components. The last result may be
missing; everything before it must be a directory. The root is its own parent. -/
def follow (tree : FileTree) (reached : List String) :
    List String → Except Fault (List String × Option Item)
  | [] => .ok (reached, tree.item? reached)
  | part :: rest =>
    match tree.item? reached with
    | none => .error .noEntry
    | some (.file _) => .error .notDirectory
    | some .directory =>
      if componentLimit < part.utf8ByteSize then .error .nameTooLong
      else if part = ".." then tree.follow reached.dropLast rest
      else tree.follow (reached ++ [part]) rest

/-- Where a path leads and what is there. -/
def find (tree : FileTree) (path : Path) : Except Fault (List String × Option Item) :=
  if pathLimit < path.text.utf8ByteSize then .error .nameTooLong
  else tree.follow [] (tree.fromRoot path)

/-- Whether there is something at a path. Only a name that is too long is a fault. -/
def exists? (tree : FileTree) (path : Path) : Except Fault Bool :=
  match tree.find path with
  | .ok (_, item) => .ok item.isSome
  | .error .nameTooLong => .error .nameTooLong
  | .error _ => .ok false

def isDirectory (tree : FileTree) (path : Path) : Bool :=
  match tree.find path with
  | .ok (_, some .directory) => true
  | _ => false

/-- Read a file. -/
def read (tree : FileTree) (path : Path) : Except Fault SourceFile := do
  match ← tree.find path with
  | (_, some (.file file)) => if file.readable then .ok file else .error .denied
  | (_, some .directory) => .error .isDirectory
  | (_, none) => .error .noEntry

/-- The components from the root on of a file that can be written at a path: in an existing
directory, and not a directory itself. -/
def target (tree : FileTree) (path : Path) : Except Fault (List String) := do
  match ← tree.find path with
  | (_, some .directory) => .error .isDirectory
  | (parts, _) => .ok parts

/-- Resolve `..` by dropping the component before it. -/
def normalise : (done : List String) → List String → List String
  | done, [] => done
  | done, part :: rest =>
    if part = ".." then normalise done.dropLast rest else normalise (done ++ [part]) rest

/-- A path as an absolute one without `..`. -/
def resolve (tree : FileTree) (path : Path) : Path :=
  { anchor := .slash, parts := normalise [] (tree.fromRoot path) }

/-- The files strictly below an absolute path, with their components relative to it. -/
def filesBelow (tree : FileTree) (root : Path) : List (List String × SourceFile) :=
  tree.entries.filterMap fun entry =>
    let parts := tree.location.parts ++ entry.1
    match entry.2 with
    | .file file =>
      if root.parts.isPrefixOf parts && root.parts.length < parts.length then
        some (parts.drop root.parts.length, file)
      else none
    | .directory => none

end FileTree

end SourceOutline
