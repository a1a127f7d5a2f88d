import SourceOutline.Scope.Binding

/-!
# Looking names up

A name is searched in the scope of the nearest bound namespace around it, then outward, and
last among the globals of the file. Whatever symbol is found, an import alias is replaced by
what it stands for.

Following aliases is a small machine. Its state is the symbol reached, the member names
still to be taken, and the aliases not followed yet. An alias puts the segments of its
target in front of the pending names and is struck from the list, so cyclic aliases end the
search without a result and the machine always stops.
-/

namespace SourceOutline

namespace Scopes

/-- The path of the nearest namespace block among a chain of ancestors; the file scope if
there is none. -/
def enclosing (scopes : Scopes) (ancestors : List Node) : List String :=
  (ancestors.findSome? (fun node => scopes.blocks.lookup node.id)).getD []

/-- Search along a scope path, innermost scope first. -/
def lookupFrom (table : List Symbol) (name : String) : (scope : List String) → Option Symbol
  | [] => Symbol.find? table name
  | segment :: inner =>
    ((Symbol.find? table segment).bind fun symbol => lookupFrom symbol.members name inner).or
      (Symbol.find? table name)

/-- The symbol that a name denotes inside a scope. -/
def lookup (scopes : Scopes) (scope : List String) (name : String) : Option Symbol :=
  lookupFrom scopes.globals name scope

/-- The symbol at a path, following the globals and then members. -/
def symbol? (scopes : Scopes) : List String → Option Symbol
  | [] => none
  | name :: names =>
    names.foldl (fun symbol member => symbol.bind (Symbol.member? · member))
      (Symbol.find? scopes.globals name)

/-- Take the pending members of a symbol, following aliases before each step and at the
end. -/
def chase (scopes : Scopes) (symbol : Option Symbol) (pending : List String)
    (unfollowed : List (List String)) : Option Symbol :=
  match symbol with
  | none => none
  | some symbol =>
    match symbol.alias? with
    | some (target, site) =>
      if _ : symbol.path ∈ unfollowed then
        match Text.segments '.' target with
        | [] => none
        | first :: rest =>
          chase scopes (scopes.lookup (scopes.enclosing site.ancestors) first) (rest ++ pending)
            (unfollowed.erase symbol.path)
      else none
    | none =>
      match pending with
      | [] => some symbol
      | name :: names => chase scopes (symbol.member? name) names unfollowed
  termination_by (unfollowed.length, pending.length)
  decreasing_by
  · apply Prod.Lex.left
    rw [List.length_erase_of_mem ‹_›]
    exact Nat.sub_lt (List.length_pos_of_mem ‹_›) Nat.one_pos
  · apply Prod.Lex.right
    exact Nat.lt_succ_self names.length

/-- The symbol itself, or what it stands for if it is an alias. -/
def resolve (scopes : Scopes) (symbol : Option Symbol) : Option Symbol :=
  scopes.chase symbol [] (Symbol.aliasPathsAll scopes.globals)

end Scopes

/-- Nodes that select a member of what stands before the last dot. -/
def isMemberType (type : String) : Bool :=
  type == "member_expression" || type == "nested_identifier"

namespace Node

/-- Whether a child of a member node is the object: the child under that field or, if the
field is missing, a named child. -/
def isObject (node : Node) (child : Node) : Bool :=
  if (node.child? "object").isSome then child.head.field == some "object" else child.named

def object? (node : Node) : Option Node := node.children.find? node.isObject

/-- The selected member: the child under that field, else the last named child. -/
def property? (node : Node) : Option Node :=
  (node.child? "property").or node.namedChildren.getLast?

end Node

namespace Scopes

mutual

/-- The symbol that an expression denotes. Identifiers are looked up, members are taken from
the symbol of the object, and nothing else denotes a symbol. -/
def symbolAtNode (scopes : Scopes) (document : Document) (ancestors : List Node) :
    Node → Except Failure (Option Symbol)
  | ⟨head, children⟩ =>
    let node : Node := ⟨head, children⟩
    if head.type == "identifier" then do
      let name ← document.text node
      return scopes.resolve (scopes.lookup (scopes.enclosing ancestors) name)
    else if isMemberType head.type then
      match node.object?, node.property? with
      | some _, some property => do
        match ← symbolAtFirst scopes document (node :: ancestors) node.isObject children with
        | some owner => do
          let name ← document.text property
          return scopes.resolve (owner.member? name)
        | none => return none
      | _, _ => .error .noNamedChild
    else .ok none

/-- The symbol that the first suitable expression of a list denotes. -/
def symbolAtFirst (scopes : Scopes) (document : Document) (ancestors : List Node)
    (suitable : Node → Bool) : List Node → Except Failure (Option Symbol)
  | [] => .ok none
  | node :: nodes =>
    if suitable node then symbolAtNode scopes document ancestors node
    else symbolAtFirst scopes document ancestors suitable nodes

end

def symbolAt (scopes : Scopes) (document : Document) (site : Site) :
    Except Failure (Option Symbol) :=
  scopes.symbolAtNode document site.ancestors site.node

/-- The dotted name of a symbol. An imported symbol has the name under which the other
module exports it. Other symbols are named by their path, behind the quoted module name if
the outermost symbol of the path is exported from a module. -/
def qualifiedName (scopes : Scopes) (symbol : Symbol) : String :=
  if symbol.isImported then
    match symbol.origin?.bind (fun declaration => declaration.form.exported?) with
    | some exported => if exported == "" then symbol.name else exported
    | none => symbol.name
  else
    let outermost := symbol.path.head?.bind (Symbol.find? scopes.globals)
    let name := Text.join '.' symbol.path
    match scopes.moduleName with
    | some module =>
      if scopes.isExternal && module != "" && outermost.any Symbol.isExported then
        "\"" ++ module ++ "\"." ++ name
      else name
    | none => name

end Scopes

/-- Anything that can say which symbol an expression denotes and how a symbol is called. -/
structure Resolver where
  symbolAt : Site → Except Failure (Option Symbol)
  qualifiedName : Symbol → String

/-- The resolver of a bound file. -/
def Scopes.resolver (scopes : Scopes) (document : Document) : Resolver :=
  { symbolAt := scopes.symbolAt document, qualifiedName := scopes.qualifiedName }

end SourceOutline
