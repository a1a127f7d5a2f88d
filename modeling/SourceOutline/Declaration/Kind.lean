import SourceOutline.Syntax.Document

/-!
# Kinds of declarations

Nine kinds of nodes become elements of an outline; every other node only passes its
children on. The kind is read off the node's type, with three refinements: an import with a
require clause binds an alias, a method signature counts only directly inside a class body,
and constructors are not members.
-/

namespace SourceOutline

inductive DeclarationKind where
  | nested
  | importEquals
  | importFrom
  | classLike
  | getter
  | setter
  | property
  | method
  | function
  deriving DecidableEq, Repr

namespace DeclarationKind

def label : DeclarationKind → String
  | nested => "module"
  | importEquals => "import_equals"
  | importFrom => "import"
  | classLike => "class"
  | getter => "get_accessor"
  | setter => "set_accessor"
  | property => "property"
  | method => "method"
  | function => "function"

/-- Kinds whose subtrees carry no structure: bodies and initialisers are never entered. -/
def isLeaf : DeclarationKind → Bool
  | getter | setter | property | method | function => true
  | nested | importEquals | importFrom | classLike => false

end DeclarationKind

/-- Node types of namespaces, including the ambient ones with a string name. -/
def isNamespaceType (type : String) : Bool := type == "internal_module" || type == "module"

def isClassType (type : String) : Bool :=
  type == "class_declaration" || type == "abstract_class_declaration"

def isFunctionType (type : String) : Bool :=
  type == "function_declaration" || type == "generator_function_declaration" ||
    type == "function_signature"

def isMethodType (type : String) : Bool :=
  type == "method_definition" || type == "method_signature" ||
    type == "abstract_method_signature"

namespace Site

def inClassBody (site : Site) : Bool :=
  site.ancestors.head?.any (fun parent => parent.type == "class_body")

/-- The kind of a method node: nothing for a constructor, else an accessor or a method. The
name is compared as written, quotes included. -/
def methodKind (document : Document) (site : Site) :
    Except Failure (Option DeclarationKind) := do
  let name ← document.text? (site.node.child? "name")
  if name == "constructor" then return none
  else if site.node.hasChildOfType "get" then return some .getter
  else if site.node.hasChildOfType "set" then return some .setter
  else return some .method

/-- The kind of declaration that a node starts, if any. Only the name of a method node is
decoded, so only a method node can fail. -/
def classify (document : Document) (site : Site) : Except Failure (Option DeclarationKind) :=
  let type := site.type
  if isNamespaceType type then .ok (some .nested)
  else if type == "import_alias" then .ok (some .importEquals)
  else if type == "import_statement" then
    if site.node.hasChildOfType "import_require_clause" then .ok (some .importEquals)
    else .ok (some .importFrom)
  else if isClassType type then .ok (some .classLike)
  else if type == "public_field_definition" then .ok (some .property)
  else if type == "method_signature" && !site.inClassBody then .ok none
  else if isMethodType type then site.methodKind document
  else if isFunctionType type then .ok (some .function)
  else .ok none

end Site

end SourceOutline
