import SourceOutline.Scope.Declared

/-!
# Binding a file

Binding goes through the statements of a file and enters every declaration into nested
tables. Blocks of one namespace merge, and a dotted namespace name opens one scope per
segment. A namespace is entered by transforming the members of its symbol, so the tables
are built from the outside in and every block is visited once.

Beside the tables the binder remembers, for each namespace node, the path of the scope that
its body belongs to.
-/

namespace SourceOutline

/-- Namespace nodes with the paths of their innermost scopes, in the order of binding. -/
abbrev Blocks : Type := List (Nat × List String)

/-- Binding may fail, and collects the namespace blocks on its way. -/
abbrev Binder (α : Type) : Type := StateT Blocks (Except Failure) α

namespace Binder

/-- Enter a declaration under a name: append it to the symbol of that name, which is created
at the end of the table if there is none, and transform the members of that symbol. -/
def enter (scope : List String) (name : String) (declaration : Declaration)
    (inside : List Symbol → Binder (List Symbol)) : List Symbol → Binder (List Symbol)
  | [] => do
    let members ← inside []
    return [{ name := name, scope := scope, declarations := [declaration], members := members }]
  | symbol :: rest =>
    if symbol.name = name then do
      let members ← inside symbol.members
      return { symbol with
        declarations := symbol.declarations ++ [declaration], members := members } :: rest
    else do return symbol :: (← enter scope name declaration inside rest)

/-- Enter a declaration under each name of a chain, every name inside the one before, and
transform the innermost table. -/
def enterChain (declaration : Declaration)
    (inside : List String → List Symbol → Binder (List Symbol)) (scope : List String) :
    (names : List String) → List Symbol → Binder (List Symbol)
  | [], table => inside scope table
  | name :: names, table =>
    enter scope name declaration (enterChain declaration inside (scope ++ [name]) names) table

/-- Enter a list of namings that open no scope. -/
def enterAll (scope : List String) (table : List Symbol) :
    List Naming → Binder (List Symbol)
  | [] => pure table
  | (name, declaration) :: rest => do
    let table ← enter scope name declaration pure table
    enterAll scope table rest

/-- The scopes that a namespace opens, outermost first. A string name is one segment and
keeps its quotes. -/
def namespaceNames (document : Document) (node : Node) : Except Failure (List String) :=
  match node.child? "name" with
  | none => .error .unnamedNamespace
  | some name => do
    let text ← document.text name
    let names := if name.type == "string" then [text] else Text.segments '.' text
    return names.map Text.strip

def noteBlock (id : Nat) (path : List String) : Binder Unit :=
  modify fun blocks => blocks ++ [(id, path)]

mutual

/-- Bind one statement of a block into the table of the block's scope. -/
def bindStatement (document : Document) (scope : List String) (ancestors : List Node)
    (table : List Symbol) : Node → Binder (List Symbol)
  | ⟨head, children⟩ =>
    let node : Node := ⟨head, children⟩
    if isTransparentType head.type then
      bindBlock document scope (node :: ancestors) table children
    else if isNamespaceType head.type then do
      let names ← liftM (namespaceNames document node)
      enterChain ⟨.plain head.type, ⟨node, ancestors⟩⟩
        (fun path members => do
          noteBlock head.id path
          bindBody document path (node :: ancestors) members children)
        scope names table
    else do
      let namings ← liftM (Site.declared document ⟨node, ancestors⟩)
      enterAll scope table namings

/-- Bind the named statements of a block in order. -/
def bindBlock (document : Document) (scope : List String) (ancestors : List Node)
    (table : List Symbol) : List Node → Binder (List Symbol)
  | [] => pure table
  | node :: nodes => do
    let table ← if node.named then bindStatement document scope ancestors table node
      else pure table
    bindBlock document scope ancestors table nodes

/-- Bind the statements of the first child that is a body. -/
def bindBody (document : Document) (scope : List String) (ancestors : List Node)
    (table : List Symbol) : List Node → Binder (List Symbol)
  | [] => pure table
  | ⟨head, children⟩ :: nodes =>
    if head.field == some "body" then
      bindBlock document scope (⟨head, children⟩ :: ancestors) table children
    else bindBody document scope ancestors table nodes

end

end Binder

/-- What binding a file yields. -/
structure Scopes where
  /-- The module path that qualifies exported names. -/
  moduleName : Option String
  /-- Whether the file imports or exports anything at its top level. -/
  isExternal : Bool
  globals : List Symbol
  blocks : Blocks
  deriving Inhabited

namespace Scopes

/-- Bind every declaration of a file. -/
def bind (document : Document) (moduleName : Option String) : Except Failure Scopes := do
  let root := document.root
  let (globals, blocks) ← (Binder.bindBlock document [] [root] [] root.children).run []
  return {
    moduleName := moduleName
    isExternal := root.namedChildren.any
      (fun child => child.type == "import_statement" || child.type == "export_statement")
    globals := globals
    blocks := blocks }

end Scopes

end SourceOutline
