import SourceOutline.Json.Basic
import SourceOutline.Syntax.Document

/-!
# Reading syntax trees

A finished tree is stored as a table of node types, each with its name, its number in the
grammar and whether it is named, and a list of nodes in document order. A node gives the
position of its parent, its type, its span and, if it has one, its field.
-/

namespace SourceOutline

namespace Node

def readInt : Json → Int
  | .int n => n
  | _ => 0

def readNat (json : Json) : Nat := (readInt json).toNat

/-- A row of the node list. Whatever is missing is read as zero or empty. -/
def readRow (types : Array Json) (id : Nat) (json : Json) : Row :=
  match json with
  | .array (parent :: type :: start :: stop :: rest) =>
    let (name, kindId, named) :=
      match types.getD (readNat type) .null with
      | .array [.string name, kindId, named] => (name, readInt kindId, readInt named != 0)
      | _ => ("", 0, false)
    let field :=
      match rest with
      | .string field :: _ => some field
      | _ => none
    { parent := if readInt parent < 0 then none else some (readNat parent)
      head := {
        id := id
        type := name
        kindId := kindId
        named := named
        field := field
        start := readNat start
        stop := readNat stop } }
  | _ => { parent := none, head := default }

/-- The rows of a node list, numbered in order. -/
def readRows (types : Array Json) (nodes : List Json) : List Row :=
  nodes.mapIdx fun id json => readRow types id json

end Node

namespace Document

/-- The document of a file whose tree is unknown: a root without children. -/
def bare (content : ByteArray) : Document :=
  { content := content
    root := {
      head := {
        id := 0
        type := "program"
        kindId := 0
        named := true
        field := none
        start := 0
        stop := content.size }
      children := [] } }

/-- The document of a file and its stored tree. -/
def ofJson (content : ByteArray) (tree : Json) : Document :=
  match tree.field? "types", tree.field? "nodes" with
  | some (.array types), some (.array nodes) =>
    match Node.ofRows? (Node.readRows types.toArray nodes) with
    | some root =>
      let hasErrors :=
        match tree.field? "has_error" with
        | some (.bool value) => value
        | _ => false
      { content := content, root := root, hasErrors := hasErrors }
    | none => bare content
  | _, _ => bare content

end Document

end SourceOutline
