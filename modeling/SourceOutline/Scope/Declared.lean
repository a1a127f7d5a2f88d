import SourceOutline.Scope.Symbol
import SourceOutline.Text.Literal

/-!
# The names that a statement declares

Statements other than namespaces declare a list of names in the table of the block they
stand in: named declarations, variables, imports and import aliases. Patterns in variable
declarations and every other statement declare nothing.
-/

namespace SourceOutline

/-- Statements whose inner statements count as statements of the same block. -/
def isTransparentType (type : String) : Bool :=
  type == "export_statement" || type == "ambient_declaration" || type == "expression_statement"

def isNamedDeclarationType (type : String) : Bool :=
  isClassType type || isFunctionType type || type == "interface_declaration" ||
    type == "enum_declaration" || type == "type_alias_declaration"

/-- A name with the declaration that introduces it. -/
abbrev Naming : Type := String × Declaration

/-- The module that an import or a require clause names, without quotes. -/
def moduleSpecifier (document : Document) (node : Node) : Except Failure (Option String) :=
  let source := (node.child? "source").or (node.namedChildren.find? (fun c => c.type == "string"))
  match source with
  | some literal => do return some (Text.unquote (← document.text literal))
  | none => .ok none

/-- Concatenate the results of a computation over a list, the first failure winning. -/
def collectMap {α β : Type} (f : α → Except Failure (List β)) : List α → Except Failure (List β)
  | [] => .ok []
  | a :: rest => do
    let first ← f a
    let others ← collectMap f rest
    return first ++ others

namespace Site

/-- A variable declarator with a plain name. -/
def declaredVariable (document : Document) (site : Site) : Except Failure (List Naming) :=
  match site.type == "variable_declarator", site.node.child? "name" with
  | true, some name =>
    if name.type == "identifier" then do
      return [(← document.text name, ⟨.plain site.type, site⟩)]
    else .ok []
  | _, _ => .ok []

/-- A specifier between the braces of an import: it is known here by its alias, if it has
one. -/
def declaredSpecifier (document : Document) (source : Option String) (site : Site) :
    Except Failure (List Naming) :=
  if site.type == "import_specifier" then do
    let name := site.node.child? "name"
    let localName ← document.text? ((site.node.child? "alias").or name)
    let exported ← document.text? name
    return [(localName, ⟨.namedImport source exported, site⟩)]
  else .ok []

/-- A part of an import clause. -/
def declaredImportPart (document : Document) (source : Option String) (site : Site) :
    Except Failure (List Naming) :=
  match site.type with
  | "identifier" => do
    return [(← document.text site.node, ⟨.defaultImport source, site⟩)]
  | "namespace_import" =>
    match site.node.namedChildren.getLast? with
    | some identifier => do
      return [(← document.text identifier, ⟨.namespaceImport source, site⟩)]
    | none => .error .noNamedChild
  | "named_imports" => collectMap (declaredSpecifier document source) site.namedChildren
  | _ => .ok []

/-- A named child of an import statement. -/
def declaredImport (document : Document) (source : Option String) (site : Site) :
    Except Failure (List Naming) :=
  match site.type with
  | "import_require_clause" =>
    match site.node.namedChildren with
    | identifier :: _ => do
      let name ← document.text identifier
      return [(name, ⟨.requireImport (← moduleSpecifier document site.node), site⟩)]
    | [] => .error .noNamedChild
  | "import_clause" => collectMap (declaredImportPart document source) site.namedChildren
  | _ => .ok []

/-- The alias and the target of `import X = A.B`. -/
def declaredAlias (document : Document) (site : Site) : Except Failure (List Naming) :=
  match site.node.namedChildren.head?, site.node.namedChildren.getLast? with
  | some name, some target => do
    let name ← document.text name
    return [(name, ⟨.importAlias (← document.text target), site⟩)]
  | _, _ => .error .noNamedChild

/-- The names declared by a statement that is no namespace and holds no other statements. -/
def declared (document : Document) (site : Site) : Except Failure (List Naming) :=
  if isNamedDeclarationType site.type then
    match site.node.child? "name" with
    | some name => do return [(← document.text name, ⟨.plain site.type, site⟩)]
    | none => .ok []
  else
    match site.type with
    | "lexical_declaration" | "variable_declaration" =>
      collectMap (declaredVariable document) site.namedChildren
    | "import_statement" => do
      let source ← moduleSpecifier document site.node
      collectMap (declaredImport document source) site.namedChildren
    | "import_alias" => site.declaredAlias document
    | _ => .ok []

end Site

end SourceOutline
