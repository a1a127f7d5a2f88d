import SourceOutline.Journal
import SourceOutline.QualifiedName
import SourceOutline.Scope.Lookup

/-!
# Names of base types

The expression after `extends` becomes a qualified name. One lookup is made for it; a
reference that denotes no symbol gets the unknown name and a warning at its place.
-/

namespace SourceOutline

/-- Put the module of a named import in front of the segments, or take the quotes off a
leading module name. -/
def QualifiedName.ofResolved (symbol : Symbol) (name : String) : QualifiedName :=
  let parts := QualifiedName.split name
  match symbol.origin?.map Declaration.form, parts with
  | some (.namedImport source _), _ => ⟨source.getD "" :: parts⟩
  | _, first :: rest =>
    if first.toList.head? == some '"' then ⟨Text.unquote first :: rest⟩ else ⟨parts⟩
  | _, [] => ⟨[]⟩

namespace Site

/-- Resolve the expression of an extends clause. -/
def baseName (document : Document) (resolver : Resolver) (site : Site) :
    Recorded QualifiedName := do
  Recorded.noteLookup site.node.id
  match ← Recorded.ofExcept (resolver.symbolAt site) with
  | some symbol => return QualifiedName.ofResolved symbol (resolver.qualifiedName symbol)
  | none =>
    let text ← Recorded.ofExcept (document.text site.node)
    Recorded.diagnose {
      severity := .warning
      message := "Unable to resolve type: '" ++ text ++ "'"
      position := some (document.position site.node) }
    return QualifiedName.unknown

/-- The value of an extends clause: the child under that field, else the first named one. -/
def extendsValue? (clause : Site) : Option Site :=
  (clause.child? "value").or clause.namedChildren.head?

/-- The first type that a class extends: the value of the first extends clause among the
heritage children. A clause without a value ends the search. -/
def extendsExpression? (site : Site) : Option Site :=
  let heritages := site.children.filter (fun child => child.type == "class_heritage")
  let clauses := heritages.flatMap (fun heritage =>
    heritage.children.filter (fun clause => clause.type == "extends_clause"))
  clauses.head?.bind extendsValue?

end Site

end SourceOutline
