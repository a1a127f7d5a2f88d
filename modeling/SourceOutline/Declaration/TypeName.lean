import SourceOutline.Syntax.Document
import SourceOutline.Text.Basic

/-!
# Type names

The name under which a property's type is shown: the word of a primitive type, `function`,
the element of an array in escaped angle brackets, or the path of a named type. Every other
type is shown as the number of its kind in the grammar, and a missing one as `undefined`.
-/

namespace SourceOutline.TypeName

def absent : String := "undefined"

def isPrimitive (word : String) : Bool :=
  word == "any" || word == "boolean" || word == "number" || word == "string"

/-- The name of a type node that is not an annotation. -/
def ofType (document : Document) (node : Node) : Except Failure String :=
  let number := toString node.head.kindId
  match node.type with
  | "predefined_type" => do
    let word := Text.strip (← document.text node)
    return if isPrimitive word then word else number
  | "function_type" => .ok "function"
  | "array_type" =>
    match node.namedChildren with
    | element :: _ => do return "Array&lt;" ++ Text.strip (← document.text element) ++ "&gt;"
    | [] => .error .noNamedChild
  | "type_identifier" | "nested_type_identifier" => do return Text.strip (← document.text node)
  | "generic_type" => do return Text.strip (← document.text? (node.child? "name"))
  | _ => .ok number

/-- The type that an annotation is about; a type stands for itself. -/
def annotated? (node : Node) : Option Node :=
  if node.type == "type_annotation" then node.namedChildren.head? else some node

/-- The name shown for a type or its annotation, which may be missing. -/
def render (document : Document) (node? : Option Node) : Except Failure String :=
  match node?.bind annotated? with
  | some node => ofType document node
  | none => .ok absent

end SourceOutline.TypeName
