import SourceOutline.Text.Basic

/-!
# Paths

A path is an anchor and the list of its components. Reading a path drops empty components
and single dots but keeps `..`, and exactly two leading slashes are an anchor of their own.

The suffix of a path is the part of its last component from the last dot on, provided that
something stands on both sides of the dot. `splitName` cuts a component into stem and
suffix, so the two together are the component again.
-/

namespace SourceOutline

/-- Where a path starts: here, or at one of the two absolute roots. -/
inductive Anchor where
  | here
  | slash
  | twoSlashes
  deriving DecidableEq, Repr, Inhabited

def Anchor.text : Anchor → String
  | here => ""
  | slash => "/"
  | twoSlashes => "//"

structure Path where
  anchor : Anchor
  parts : List String
  deriving DecidableEq, Repr, Inhabited

namespace Path

def isPart (part : String) : Bool := part != "" && part != "."

def anchorOf (text : String) : Anchor :=
  match (text.toList.takeWhile (· == '/')).length with
  | 0 => .here
  | 2 => .twoSlashes
  | _ => .slash

/-- Read a path. -/
def ofText (text : String) : Path :=
  { anchor := anchorOf text, parts := (Text.segments '/' text).filter isPart }

/-- Write a path; the path without anchor and components is a dot. -/
def text (path : Path) : String :=
  let written := path.anchor.text ++ Text.join '/' path.parts
  if written = "" then "." else written

/-- The last component, empty if there is none. -/
def name (path : Path) : String := path.parts.getLast?.getD ""

/-- The path without its last component; a bare anchor is its own parent. -/
def parent (path : Path) : Path := { path with parts := path.parts.dropLast }

/-- A component as stem and suffix. -/
def splitName (name : String) : String × String :=
  let backward := name.toList.reverse
  let extension := backward.takeWhile (· != '.')
  match backward.dropWhile (· != '.') with
  | dot :: stem =>
    if extension.isEmpty || stem.isEmpty then (name, "")
    else (String.ofList stem.reverse, String.ofList (dot :: extension.reverse))
  | [] => (name, "")

/-- The suffix with its dot, or nothing. -/
def suffix (path : Path) : String := (splitName path.name).2

/-- The path without its suffix. The stem stays a component whatever it looks like. -/
def withoutSuffix (path : Path) : Path :=
  match path.parts.getLast? with
  | some last => { path with parts := path.parts.dropLast ++ [(splitName last).1] }
  | none => path

/-- Whether a null character occurs; such a path names nothing. -/
def hasNull (path : Path) : Bool :=
  path.parts.any fun part => part.toList.contains (Char.ofNat 0)

/-- A path below another one. -/
def append (path below : Path) : Path :=
  match below.anchor with
  | .here => { path with parts := path.parts ++ below.parts }
  | _ => below

end Path

end SourceOutline
