import SourceOutline.BaseName
import SourceOutline.Model.Registry

/-!
# What a declaration contributes

A classified node contributes a chain of elements: one module per segment for a namespace
with a dotted name, and a single element for every other kind. The chain is computed from
the node, its ancestors and the resolver alone; where it is attached is decided by the walk.
-/

namespace SourceOutline

namespace Site

/-- The child under a field that every node of this type must have. -/
def requiredField (document : Document) (site : Site) (field : String) : Except Failure Node :=
  match site.node.child? field with
  | some child => .ok child
  | none => .error (.missingField site.type (document.position site.node).line field)

/-- The name of a member; string keys lose their quotes. -/
def declaredName (document : Document) (site : Site) : Except Failure String := do
  let name ← site.requiredField document "name"
  let text ← document.text name
  return if name.type == "string" then Text.unquote text else text

/-- The names of the modules that a namespace nests, outermost first. -/
def moduleNames (document : Document) (site : Site) : Except Failure (List String) := do
  let name ← site.requiredField document "name"
  let text ← document.text name
  let names :=
    match name.type with
    | "string" => [Text.unquote text]
    | "nested_identifier" => Text.segments '.' text
    | _ => [text]
  return names.map Text.strip

/-- One module per name. Only the outermost carries the modifiers that are written; the
others have the default of a namespace. -/
def moduleChain (document : Document) (site : Site) : Except Failure (List Traits) := do
  let names ← site.moduleNames document
  let outer ← site.visibility document
  let inner := Visibility.resolve [] .moduleBody
  match names with
  | [] => return []
  | first :: rest =>
    return { name := first, visibility := outer, detail := .module none } ::
      rest.map fun name => { name := name, visibility := inner, detail := .module none }

/-- The name that `import x = …` introduces. -/
def importAlias (document : Document) (site : Site) : Except Failure String := do
  let holder ←
    if site.type == "import_statement" then
      match site.node.namedChildren.find? (fun c => c.type == "import_require_clause") with
      | some clause => Except.ok clause
      | none => .error .anonymousRequireClause
    else .ok site.node
  match holder.namedChildren with
  | name :: _ => document.text name
  | [] => .error .noNamedChild

def importTraits (name : String) : Traits := { name := name, detail := .importedModule }

/-- A field or an accessor. -/
def propertyTraits (document : Document) (site : Site) (typeField : String)
    (hasGetter hasSetter : Bool) : Except Failure Traits := do
  let name ← site.declaredName document
  let visibility ← site.visibility document
  let lifetime ← site.lifetime document
  let typeName ← TypeName.render document (site.node.child? typeField)
  return {
    name := name
    visibility := visibility
    lifetime := lifetime
    detail := .property typeName hasGetter hasSetter }

/-- A method or a free function. -/
def methodTraits (document : Document) (site : Site) : Except Failure Traits := do
  let name ← site.declaredName document
  let visibility ← site.visibility document
  let lifetime ← site.lifetime document
  let isAbstract ← site.isAbstract document
  return {
    name := name, visibility := visibility, lifetime := lifetime, detail := .method isAbstract }

/-- A class, whose base is resolved last. -/
def classTraits (document : Document) (resolver : Resolver) (site : Site) :
    Recorded Traits := do
  let node ← Recorded.ofExcept (site.requiredField document "name")
  let name ← Recorded.ofExcept (document.text node)
  let visibility ← Recorded.ofExcept (site.visibility document)
  let isAbstract ← Recorded.ofExcept (site.isAbstract document)
  let base ←
    match site.extendsExpression? with
    | some expression => some <$> expression.baseName document resolver
    | none => pure none
  return { name := name, visibility := visibility, detail := .classLike isAbstract base }

/-- The chain of elements that a node of a kind contributes, outermost first. -/
def contribution (document : Document) (resolver : Resolver) (kind : DeclarationKind)
    (site : Site) : Recorded (List Traits) :=
  let single (traits : Except Failure Traits) : Recorded (List Traits) :=
    Recorded.ofExcept (traits.map ([·]))
  match kind with
  | .nested => Recorded.ofExcept (site.moduleChain document)
  | .importEquals => single ((site.importAlias document).map importTraits)
  | .importFrom => single do
    let source ← site.requiredField document "source"
    return importTraits (Text.unquote (← document.text source))
  | .classLike => do return [← site.classTraits document resolver]
  | .property => single (site.propertyTraits document "type" false false)
  | .getter => single (site.propertyTraits document "return_type" true false)
  | .setter => single (site.propertyTraits document "return_type" false true)
  | .method | .function => single (site.methodTraits document)

end Site

end SourceOutline
